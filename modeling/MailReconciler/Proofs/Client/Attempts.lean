/-
A guarded call, attempt by attempt: `callFrom` is what is left of it when it comes to an attempt. An attempt that is
not retried ends the call at once, and one that is retried leads to the next after its wait.
-/
import MailReconciler.Client.Guarded
import MailReconciler.Proofs.Breaker.Call
import MailReconciler.Proofs.Retry.Steps

namespace MailReconciler

/-! ## Attempts -/

section Attempts

variable {ρ ε α : Type} {now : Instant}

/-- Recording how an operation has ended leaves the remote state alone. -/
theorem keeps_concludeCall {τ : Type} {view : ρ → τ} (name : String) (ending : Except EndReason (Except ε α)) :
    (concludeCall name ending).Keeps fun w : World ρ => view w.state.remote := by
  rcases ending with reason | e | value
  · trivial
  · exact ⟨fun _ _ => rfl, fun _ _ => trivial⟩
  · exact ⟨fun _ _ => rfl, fun _ _ => trivial⟩

/-- What the operation of an attempt has answered, if the breaker let it through and the scope did not end it. -/
def reply? : Except (BreakerFailure ε) α → Option (Except ε α)
  | .ok value => some (.ok value)
  | .error (.operation e) => some (.error e)
  | .error _ => none

/-- An attempt ends if its operation does, and replies what the operation answers. -/
theorem ends_throughBreaker_of_ends {P : Except ε α → Prop} {op : Work ρ (Except ε α)} (scope : Scope)
    (h : op.Ends (fun outcome _ => P outcome) now) :
    (throughBreaker scope op).Ends (fun result _ => ∀ outcome, reply? result = some outcome → P outcome) now := by
  rw [throughBreaker_eq]
  intro w v
  cases ha : (World.allow now v).1 with
  | false =>
    simp only [ha, Bool.false_eq_true, if_false]
    intro outcome hreply
    cases hreply
  | true =>
    simp only [ha, if_true]
    refine Work.ends_bind.2 ((h.onPart.within scope).mono ?_)
    rintro (reason | e | value) t hp
    · intro outcome hreply
      cases hreply
    · intro _ outcome hreply
      cases hreply
      exact hp _ rfl
    · intro _ outcome hreply
      cases hreply
      exact hp _ rfl

end Attempts

/-! ## Calls -/

variable {ρ α : Type} {policy : Policy} {scope : Scope} {operation : String}
  {op : Nat → Work ρ (Except ApiFailure α)} {spare attempt : Nat} {now t : Instant} {w w' : World ρ}

/-- What is left of a guarded call when it comes to an attempt. -/
def callFrom (policy : Policy) (scope : Scope) (operation : String) (op : Nat → Work ρ (Except ApiFailure α))
    (spare attempt : Nat) : Work (World ρ) (CallRun α) :=
  (Retry.attemptFrom policy scope operation (fun k => throughBreaker scope (op k)) spare attempt).bind fun run =>
    .done ⟨run.attempts, run.result.mapError CallFailure.ofRetry⟩

theorem guarded_eq_callFrom : guarded policy scope operation op = callFrom policy scope operation op
    (Retry.spare policy) 1 :=
  rfl

theorem run_callFrom {run : Retry.Run (BreakerFailure ApiFailure) α}
    (h : Retry.Makes policy scope operation (fun k => throughBreaker scope (op k)) spare attempt now w run t w') :
    (callFrom policy scope operation op spare attempt).run now w =
      some (⟨run.attempts, run.result.mapError CallFailure.ofRetry⟩, t, w') := by
  unfold callFrom
  rw [Work.run_bind_of_some _ h.run]
  rfl

theorem run_call {service : Service ρ} {call : Call α} {run : Retry.Run (BreakerFailure ApiFailure) α}
    (h : Retry.Makes policy scope call.name (fun _ => throughBreaker scope (service.perform call))
      (Retry.spare policy) 1 now w run t w') :
    (Client.call ⟨service, policy⟩ scope call).run now w = some (run.result.mapError CallFailure.ofRetry, t, w') :=
  Work.run_bind_of_some _ (run_callFrom h)

theorem makes_of_run_callFrom {run : CallRun α}
    (h : (callFrom policy scope operation op spare attempt).run now w = some (run, t, w')) :
    ∃ r, Retry.Makes policy scope operation (fun k => throughBreaker scope (op k)) spare attempt now w r t w' ∧
      run = ⟨r.attempts, r.result.mapError CallFailure.ofRetry⟩ := by
  cases hrun : (Retry.attemptFrom policy scope operation (fun k => throughBreaker scope (op k)) spare attempt).run now w
    with
  | none =>
    unfold callFrom at h
    rw [Work.run_bind_of_none _ hrun] at h
    cases h
  | some ending =>
    have hmakes := Retry.makes_of_run hrun
    rw [run_callFrom hmakes] at h
    cases h
    exact ⟨_, hmakes, rfl⟩

/-- What is left of a call makes the attempt that it comes to, and perhaps more. -/
theorem le_attempts_of_run_callFrom {run : CallRun α}
    (h : (callFrom policy scope operation op spare attempt).run now w = some (run, t, w')) :
    attempt ≤ run.attempts := by
  obtain ⟨r, hmakes, rfl⟩ := makes_of_run_callFrom h
  exact hmakes.le_attempts

theorem ends_callFrom {post : CallRun α → Instant → Prop} :
    (callFrom policy scope operation op spare attempt).Ends post now ↔
      (Retry.attemptFrom policy scope operation (fun k => throughBreaker scope (op k)) spare attempt).Ends
        (fun run t => post ⟨run.attempts, run.result.mapError CallFailure.ofRetry⟩ t) now :=
  Work.ends_bind

/-- An attempt that fails without an error of its operation, and that is the last or not retried, ends its call at
once. -/
theorem run_callFrom_of_not_retried {e : BreakerFailure ApiFailure}
    (h : (throughBreaker scope (op attempt)).run now w = some (.error e, t, w')) (he : e.operation? = none)
    (hp : policy.retries e = false ∨ spare = 0) :
    ∃ w'', (callFrom policy scope operation op spare attempt).run now w =
      some (⟨attempt, .error (.ofBreaker operation e)⟩, t, w'') ∧ w''.state = w'.state ∧ w''.random = w'.random := by
  have hexhausted : CallFailure.ofRetry (.exhausted operation attempt e) = .ofBreaker operation e := by
    cases e with
    | operation _ => cases he
    | rejected _ | interrupted _ _ => rfl
  cases spare with
  | zero => rw [← hexhausted]; exact ⟨_, run_callFrom (.exhausts h), rfl, rfl⟩
  | succ spare => exact ⟨_, run_callFrom (.gives h (hp.resolve_right (Nat.succ_ne_zero spare))), rfl, rfl⟩

/-- An attempt that is retried is followed by a wait and by the next attempt, if the scope lasts as long. -/
theorem run_callFrom_of_retried {e : BreakerFailure ApiFailure}
    (h : (throughBreaker scope (op attempt)).run now w = some (.error e, t, w')) (hp : policy.retries e = true)
    (hs : scope.reason? (t + (Retry.waitBehind policy attempt w').nanos) = none) :
    (callFrom policy scope operation op (spare + 1) attempt).run now w =
      (callFrom policy scope operation op spare (attempt + 1)).run (t + (Retry.waitBehind policy attempt w').nanos)
        (Retry.waiting policy operation attempt w') := by
  unfold callFrom
  rw [Work.run_bind, Work.run_bind, Retry.run_attemptFrom_of_retried h hp,
    Work.run_bind_of_some _ (Work.run_pause_of_none hs _)]
  rfl

end MailReconciler
