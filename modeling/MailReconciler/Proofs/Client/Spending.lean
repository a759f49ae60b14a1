/-
What guarded calls spend. The breaker and the retries do nothing to the remote state by themselves: so an attempt raises
a count of the remote state by no more than its operation does, and a call by no more than that for each attempt that
its policy allows, whatever the breaker, the scope and others do.
-/
import MailReconciler.Proofs.Client.Attempts
import MailReconciler.Proofs.Work.Spending

namespace MailReconciler

/-! ## Runs of attempts -/

namespace Retry

variable {σ ε α : Type} {count : σ → Nat} {most : Nat}

theorem spends_finish (operation : String) (outcome : Outcome) (run : Run ε α) (most : Nat) :
    (finish operation outcome run).Spends (fun r : Recorded σ => count r.state) most := by
  intro _ r
  exact ⟨most, Nat.le_refl _, trivial⟩

variable [Report ε] {policy : Policy} {scope : Scope} {operation : String}
  {op : Nat → Work (Recorded σ) (Except ε α)} {spare attempt : Nat}

/-- What follows an attempt spends no more than what follows its wait, if there is one. -/
theorem spends_afterAttempt (hwait : ∀ rest e reason, spare = rest + 1 →
      (afterWait policy scope operation op rest attempt e reason).Spends (fun r => count r.state) most)
    (outcome : Except ε α) :
    (afterAttempt policy scope operation op spare attempt outcome).Spends (fun r => count r.state) most := by
  cases outcome with
  | ok value => exact fun _ _ => ⟨most, Nat.le_refl _, spends_finish _ _ _ _⟩
  | error e =>
    refine fun _ _ => ⟨most, Nat.le_refl _, ?_⟩
    cases spare with
    | zero => exact spends_finish _ _ _ _
    | succ rest =>
      cases hp : policy.retries e with
      | false =>
        rw [afterFailure_of_permanent hp]
        exact spends_finish _ _ _ _
      | true =>
        rw [afterFailure_of_retries hp]
        refine fun _ _ => ⟨most, Nat.le_refl _, ?_⟩
        have hpause : ∀ nanos, (Work.pause scope nanos).Spends (fun r : Recorded σ => count r.state) 0 := fun nanos =>
          (Work.keeps_pause scope nanos).spends
        exact (Work.spends_bind (fun reason => hwait rest e reason rfl) (hpause _)).mono (Nat.le_of_eq (Nat.zero_add _))

theorem spends_attemptFrom (count : σ → Nat) (hop : ∀ k, (op k).Spends (fun r => count r.state) most)
    (spare attempt : Nat) : (attemptFrom policy scope operation op spare attempt).Spends
      (fun r => count r.state) ((spare + 1) * most) := by
  induction spare generalizing attempt with
  | zero =>
    rw [attemptFrom_eq, Nat.succ_mul, Nat.add_comm _ most]
    exact Work.spends_bind (spends_afterAttempt nofun) (hop attempt)
  | succ spare ih =>
    -- one attempt and then, behind a wait that spends nothing, the rest
    rw [attemptFrom_eq, Nat.succ_mul, Nat.add_comm _ most]
    refine Work.spends_bind (spends_afterAttempt fun rest e reason hrest => ?_) (hop attempt)
    cases hrest
    cases reason with
    | some reason => exact spends_finish _ _ _ _
    | none => exact ih (attempt + 1)

end Retry

/-! ## Guarded calls -/

variable {ρ ε α : Type} {policy : Policy} {scope : Scope} {count : ρ → Nat} {most : Nat}

theorem spends_throughBreaker {op : Work ρ (Except ε α)} (scope : Scope) (hop : op.Spends count most) :
    (throughBreaker scope op).Spends (fun w => count w.state.remote) most := by
  rw [throughBreaker_eq]
  refine fun _ w => ⟨most, Nat.le_refl _, fun now v => ⟨most, Nat.le_refl _, ?_⟩⟩
  cases ha : (World.allow now v).1 with
  | false =>
    simp only [ha, Bool.false_eq_true, if_false]
    trivial
  | true =>
    simp only [ha, if_true]
    have hinside : (insideBreaker scope op).Spends (fun w => count w.state.remote) most :=
      (hop.onPart fun _ _ => rfl).within scope
    exact Work.spends_bind (fun ending => (keeps_concludeCall _ ending).spends) hinside

theorem Retry.spare_add_one (hpos : 0 < policy.maxAttempts.toNat) :
    Retry.spare policy + 1 = policy.maxAttempts.toNat :=
  Nat.sub_add_cancel hpos

variable {service : Service ρ} {call : Call α}

/-- A call spends no more than its operation does in its first attempt and in each that may follow. -/
theorem spends_attempts (hcall : (service.perform call).Spends count most) :
    (Client.call ⟨service, policy⟩ scope call).Spends (fun w => count w.state.remote)
      ((Retry.spare policy + 1) * most) := by
  have hop : ∀ _ : Nat, (throughBreaker scope (service.perform call)).Spends (fun w => count w.state.remote) most :=
    fun _ => spends_throughBreaker scope hcall
  have hrun : (Retry.run policy scope call.name fun _ => throughBreaker scope (service.perform call)).Spends
      (fun w => count w.state.remote) ((Retry.spare policy + 1) * most) :=
    Retry.spends_attemptFrom (fun g : Guarded ρ => count g.remote) hop (Retry.spare policy) 1
  exact Work.spends_bind (fun _ => Work.spends_done _ 0) (Work.spends_bind (fun _ => Work.spends_done _ 0) hrun)

/-- A call spends no more than its operation does in each of the attempts that are allowed. -/
theorem spends_call (hpos : 0 < policy.maxAttempts.toNat) (hcall : (service.perform call).Spends count most) :
    (Client.call ⟨service, policy⟩ scope call).Spends (fun w => count w.state.remote)
      (policy.maxAttempts.toNat * most) := by
  rw [← Retry.spare_add_one hpos]
  exact spends_attempts hcall

theorem ends_call (hcall : ∀ now, (service.perform call).Ends (fun _ _ => True) now) (now : Instant) :
    (Client.call ⟨service, policy⟩ scope call).Ends (fun _ _ => True) now := by
  have hop : ∀ (_ : Nat) now, (throughBreaker scope (service.perform call)).Ends (fun _ _ => True) now := fun _ now =>
    (ends_throughBreaker_of_ends scope (hcall now)).mono fun _ _ _ => trivial
  have hguarded : (guarded policy scope call.name fun _ => service.perform call).Ends (fun _ _ => True) now :=
    ends_callFrom.2 (Retry.ends_attemptFrom_of_last hop (Retry.spare policy) 1 now)
  exact Work.ends_bind.2 (hguarded.mono fun _ _ _ => trivial)

end MailReconciler
