/-
Images of guarded calls. Neither the retries nor the breaker look at the remote state: so if an operation has an image
under a map of remote states, the call that it makes has one too, with the same samples, waits, states of the breaker
and results, whatever the policy and the scope.
-/
import MailReconciler.Proofs.Client.Attempts
import MailReconciler.Proofs.Work.Images

namespace MailReconciler

open Work (Images)

variable {σ τ ρ ρ' ε α : Type}

/-- The same samples and random words with a mapped state. -/
def Recorded.mapState (m : σ → τ) (r : Recorded σ) : Recorded τ := ⟨r.samples, r.random, m r.state⟩

/-- The same world with a mapped remote state. -/
def World.mapRemote (m : ρ → ρ') : World ρ → World ρ' :=
  Recorded.mapState fun g => ⟨g.breaker, g.clock, m g.remote⟩

/-! ## Runs of attempts -/

namespace Retry

variable {m : σ → τ} {operation : String}

theorem images_emit (samples : List Sample) {next : Work (Recorded σ) α} {next' : Work (Recorded τ) α}
    (h : Images (Recorded.mapState m) next next') :
    Images (Recorded.mapState m) (.act (fun _ r => r.emit samples) fun _ _ => next)
      (.act (fun _ r => r.emit samples) fun _ _ => next') :=
  .act (fun _ _ => rfl) fun _ _ => h

theorem images_finish (outcome : Outcome) (run : Run ε α) :
    Images (Recorded.mapState m) (finish operation outcome run) (finish operation outcome run) :=
  images_emit _ (.done run)

variable [Report ε] {policy : Policy} {scope : Scope} {op : Nat → Work (Recorded σ) (Except ε α)}
  {op' : Nat → Work (Recorded τ) (Except ε α)} {spare attempt : Nat}

/-- What follows an attempt has an image if what follows its wait has one. -/
theorem images_afterAttempt (hwait : ∀ rest e reason, spare = rest + 1 → Images (Recorded.mapState m)
      (afterWait policy scope operation op rest attempt e reason)
      (afterWait policy scope operation op' rest attempt e reason)) (outcome : Except ε α) :
    Images (Recorded.mapState m) (afterAttempt policy scope operation op spare attempt outcome)
      (afterAttempt policy scope operation op' spare attempt outcome) := by
  cases outcome with
  | ok value => exact images_emit _ (images_finish _ _)
  | error e =>
    refine images_emit _ ?_
    cases spare with
    | zero => exact images_finish _ _
    | succ rest =>
      cases hp : policy.retries e with
      | false =>
        rw [afterFailure_of_permanent hp, afterFailure_of_permanent hp]
        exact images_finish _ _
      | true =>
        rw [afterFailure_of_retries hp, afterFailure_of_retries hp]
        -- the wait is drawn from the random words, which the map leaves
        exact .act (fun _ _ => rfl) fun _ _ => (Work.images_pause scope _).bind fun reason => hwait rest e reason rfl

theorem images_attemptFrom (hop : ∀ k, Images (Recorded.mapState m) (op k) (op' k)) (spare attempt : Nat) :
    Images (Recorded.mapState m) (attemptFrom policy scope operation op spare attempt)
      (attemptFrom policy scope operation op' spare attempt) := by
  induction spare generalizing attempt with
  | zero =>
    rw [attemptFrom_eq, attemptFrom_eq]
    exact (hop attempt).bind (images_afterAttempt nofun)
  | succ spare ih =>
    rw [attemptFrom_eq, attemptFrom_eq]
    refine (hop attempt).bind (images_afterAttempt fun rest e reason hrest => ?_)
    cases hrest
    cases reason with
    | some reason => exact images_finish _ _
    | none => exact ih (attempt + 1)

end Retry

/-! ## Calls -/

variable {m : ρ → ρ'} {policy : Policy}

theorem images_throughBreaker (scope : Scope) {op : Work ρ (Except ε α)} {op' : Work ρ' (Except ε α)}
    (h : Images m op op') : Images (World.mapRemote m) (throughBreaker scope op) (throughBreaker scope op') := by
  rw [throughBreaker_eq, throughBreaker_eq]
  refine .act (fun _ _ => rfl) fun _ w => .act (fun _ _ => rfl) fun now v => ?_
  have hallow : (World.allow now (World.mapRemote m v)).1 = (World.allow now v).1 := rfl
  rw [hallow]
  cases (World.allow now v).1 with
  | false => exact .done _
  | true =>
    have hinside : Images (World.mapRemote m) (insideBreaker scope op) (insideBreaker scope op') := by
      refine Images.within scope (h.onPart ?_ ?_)
      · exact fun _ => rfl
      · exact fun _ _ => rfl
    refine hinside.bind fun ending => ?_
    rcases ending with reason | e | value
    · exact .done _
    · exact .act (fun _ _ => rfl) fun _ _ => .done _
    · exact .act (fun _ _ => rfl) fun _ _ => .done _

/-- A call has an image if its operation has one, and both go by the same name. -/
theorem images_call {service : Service ρ} {service' : Service ρ'} {call call' : Call α} (scope : Scope)
    (hname : call'.name = call.name) (h : Images m (service.perform call) (service'.perform call')) :
    Images (World.mapRemote m) (Client.call ⟨service, policy⟩ scope call)
      (Client.call ⟨service', policy⟩ scope call') := by
  have hrun : Images (World.mapRemote m)
      (Retry.run policy scope call.name fun _ => throughBreaker scope (service.perform call))
      (Retry.run policy scope call.name fun _ => throughBreaker scope (service'.perform call')) :=
    Retry.images_attemptFrom (fun _ => images_throughBreaker scope h) _ _
  unfold Client.call
  rw [hname]
  exact (hrun.bind fun run => .done _).bind fun run => .done run.result

end MailReconciler
