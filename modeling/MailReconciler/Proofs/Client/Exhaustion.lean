/-
Calls that are given up after their last attempt. A run asks whether an attempt is the last one before it asks whether
its error is worth another: so all attempts of an exhausted call but the last failed with errors that its policy
retries, and the last failed with the error that is reported, whatever the policy says of it. A call is reported as
exhausted, and as worth another try, also when that error is permanent.
-/
import MailReconciler.Proofs.Breaker.Bearing
import MailReconciler.Proofs.Client.Attempts

namespace MailReconciler

namespace Retry

variable {σ ε α : Type} [Report ε] {policy : Policy} {scope : Scope} {operation : String}
  {op : Nat → Work (Recorded σ) (Except ε α)} {spare attempt : Nat} {now t : Instant} {r r' : Recorded σ}

/-- Every attempt of a run fails from where it begins: before the last of them with an error that is retried, and the
last with `e`. -/
def FailsUpTo (policy : Policy) (op : Nat → Work (Recorded σ) (Except ε α)) (spare attempt : Nat) (e : ε)
    (begins : List (Instant × Recorded σ)) : Prop :=
  ∀ (i : Nat) b, begins[i]? = some b → ∃ e' t r, (op (attempt + i)).run b.1 b.2 = some (.error e', t, r) ∧
    (i < spare → policy.retries e' = true) ∧ (i = spare → e' = e)

theorem Makes.of_exhausted {operation' : String} {attempts n : Nat} {e : ε}
    (h : Makes policy scope operation op spare attempt now r ⟨attempts, .error (.exhausted operation' n e)⟩ t r') :
    operation' = operation ∧ n = attempts ∧ attempts = attempt + spare ∧
      FailsUpTo policy op spare attempt e (begins policy scope operation op spare attempt now r) := by
  generalize hrun : (⟨attempts, .error (.exhausted operation' n e)⟩ : Run ε α) = run at h
  induction h with
  | exhausts hop =>
    cases hrun
    refine ⟨rfl, rfl, rfl, fun i b hi => ?_⟩
    cases i with
    | zero => cases hi; exact ⟨_, _, _, hop, fun hlt => absurd hlt (Nat.lt_irrefl 0), fun _ => rfl⟩
    | succ i => cases hi
  | waits hop hp hnone _ ih =>
    obtain ⟨hoperation, hn, hattempts, hfails⟩ := ih hrun
    refine ⟨hoperation, hn, by omega, fun i b hi => ?_⟩
    rw [begins_of_retried hop hp hnone] at hi
    cases i with
    | zero => cases hi; exact ⟨_, _, _, hop, fun _ => hp, fun hz => absurd hz (Nat.succ_ne_zero _).symm⟩
    | succ i =>
      obtain ⟨e', t, r, hfail, hretried, hlast⟩ := hfails i b hi
      rw [Nat.add_right_comm] at hfail
      exact ⟨e', t, r, hfail, fun hlt => hretried (Nat.lt_of_succ_lt_succ hlt), fun he => hlast (Nat.succ.inj he)⟩
  | succeeds _ => cases hrun
  | gives _ _ => cases hrun
  | cancels _ _ _ _ _ => cases hrun

/-- Every attempt of a run fails from where it begins, with an error that is retried. -/
def FailsRetried (policy : Policy) (op : Nat → Work (Recorded σ) (Except ε α)) (attempt : Nat)
    (begins : List (Instant × Recorded σ)) : Prop :=
  ∀ (i : Nat) b, begins[i]? = some b → ∃ e' t r, (op (attempt + i)).run b.1 b.2 = some (.error e', t, r) ∧
    policy.retries e' = true

/-- The last error alone decides whether all of them were worth another attempt. -/
theorem FailsUpTo.retried_iff {e : ε} {begins : List (Instant × Recorded σ)}
    (h : FailsUpTo policy op spare attempt e begins) (hlength : begins.length = spare + 1) :
    FailsRetried policy op attempt begins ↔ policy.retries e = true := by
  constructor
  · intro hall
    have hget : begins[spare]? = some begins[spare] := List.getElem?_eq_getElem (by omega)
    obtain ⟨e₁, t₁, r₁, hrun₁, -, hlast⟩ := h spare _ hget
    obtain ⟨e₂, t₂, r₂, hrun₂, hretried⟩ := hall spare _ hget
    cases hrun₁.symm.trans hrun₂
    rw [← hlast rfl]
    exact hretried
  · intro hretries i b hi
    obtain ⟨e', t, r, hrun, hretried, hlast⟩ := h i b hi
    have hlt : i < spare + 1 := hlength ▸ (List.getElem?_eq_some_iff.1 hi).1
    refine ⟨e', t, r, hrun, ?_⟩
    rcases Nat.lt_or_eq_of_le (Nat.le_of_lt_succ hlt) with hlt | heq
    · exact hretried hlt
    · rw [hlast heq]
      exact hretries

end Retry

variable {ρ α : Type} {policy : Policy} {scope : Scope} {operation : String}
  {op : Nat → Work ρ (Except ApiFailure α)} {spare attempt left : Nat} {now t : Instant} {w w' : World ρ}

/-! ## Calls that are exhausted -/

/-- The beginnings of the attempts of a guarded call. -/
def callBegins (policy : Policy) (scope : Scope) (operation : String) (op : Nat → Work ρ (Except ApiFailure α))
    (now : Instant) (w : World ρ) : List (Instant × World ρ) :=
  Retry.begins policy scope operation (fun k => throughBreaker scope (op k)) (Retry.spare policy) 1 now w

theorem ofRetry_eq_exhausted {failure : RetryFailure (BreakerFailure ApiFailure)} {n : Nat} {e : ApiFailure}
    (h : CallFailure.ofRetry failure = .exhausted operation n e) : failure = .exhausted operation n (.operation e) := by
  cases failure with
  | exhausted _ _ last => cases last <;> cases h; rfl
  | permanent _ _ last => cases last <;> cases h
  | cancelled _ _ _ _ => cases h

/-- A call that is reported as exhausted has made all its attempts. Each failed, all but the last with an error that the
policy retries, the last with the error of the API that is reported; so all errors were worth another attempt exactly if
this one was, while the report always says so. -/
theorem exhausted_call_made_all_attempts {attempts n : Nat} {operation' : String} {e : ApiFailure}
    (h : (guarded policy scope operation op).run now w =
      some (⟨attempts, .error (.exhausted operation' n e)⟩, t, w')) :
    operation' = operation ∧ n = attempts ∧ attempts = max policy.maxAttempts.toNat 1 ∧
    (callBegins policy scope operation op now w).length = attempts ∧
    Retry.FailsUpTo policy (fun k => throughBreaker scope (op k)) (attempts - 1) 1 (.operation e)
      (callBegins policy scope operation op now w) ∧
    (Retry.FailsRetried policy (fun k => throughBreaker scope (op k)) 1 (callBegins policy scope operation op now w) ↔
      policy.retries e = true) ∧
    (CallFailure.exhausted operation' n e).assess.retryable = true := by
  rw [guarded_eq_callFrom] at h
  obtain ⟨⟨made, result⟩, hmakes, hrun⟩ := makes_of_run_callFrom h
  obtain rfl : attempts = made := congrArg CallRun.attempts hrun
  have hresult : Except.error (.exhausted operation' n e) = result.mapError CallFailure.ofRetry :=
    congrArg CallRun.result hrun
  cases result with
  | ok value => cases hresult
  | error failure =>
    obtain rfl := ofRetry_eq_exhausted (Except.error.inj hresult).symm
    obtain ⟨hoperation, hn, hattempts, hfails⟩ := hmakes.of_exhausted
    have hlength : (callBegins policy scope operation op now w).length = Retry.spare policy + 1 :=
      Nat.add_right_cancel (hmakes.length_begins.trans (by rw [hattempts, Nat.add_comm 1]))
    have hmax : attempts = max policy.maxAttempts.toNat 1 := by
      rw [hattempts]
      unfold Retry.spare
      omega
    have hspare : attempts - 1 = Retry.spare policy := by omega
    refine ⟨hoperation, hn, hmax, by omega, ?_, hfails.retried_iff hlength, rfl⟩
    rw [hspare]
    exact hfails

/-! ## Calls that are bound to be exhausted -/

/-- An operation that fails at once, at a breaker that lets it through. -/
theorem run_throughBreaker_of_error (scope : Scope) (e : ApiFailure) (hb : w.state.breaker.mode ≠ .opened) :
    ∃ w', (throughBreaker scope (.done (.error e) : Work ρ (Except ApiFailure α))).run now w =
        some (.error (.operation e), now, w') ∧
      w'.state.breaker = (w.state.breaker.recordFailure (w.read now)).1 := by
  have hop : (Work.done (.error e) : Work ρ (Except ApiFailure α)).run now w.state.remote = _ := rfl
  obtain ⟨w', hrun, hbreaker, -⟩ := run_throughBreaker_of_immediate hop hb
  exact ⟨w', hrun, hbreaker⟩

/-- A call whose attempts fail one after the other, each at a breaker that has not opened, is exhausted by the last,
whatever its error. -/
theorem run_callFrom_of_failing (hscope : scope.endsAt = none) {errors : Nat → ApiFailure} (spare : Nat)
    (hop : ∀ k, op k = .done (.error (errors k))) :
    ∀ (attempt left : Nat) (now : Instant) (w : World ρ), w.state.breaker.Bears (left + 1) → spare ≤ left →
      (∀ k, attempt ≤ k → k < attempt + spare → policy.retries (errors k) = true) →
      ∃ t w', (callFrom policy scope operation op spare attempt).run now w = some (⟨attempt + spare,
        .error (.exhausted operation (attempt + spare) (errors (attempt + spare)))⟩, t, w') := by
  induction spare with
  | zero =>
    intro attempt left now w hb _ _
    obtain ⟨w', hrun, -⟩ := @run_throughBreaker_of_error ρ α now w scope (errors attempt) (by rw [hb.mode_eq]; decide)
    rw [← hop] at hrun
    exact ⟨_, _, run_callFrom (.exhausts hrun)⟩
  | succ spare ih =>
    intro attempt left now w hb hle hretries
    obtain ⟨left, rfl⟩ : ∃ n, left = n + 1 := ⟨left - 1, by omega⟩
    obtain ⟨w', hrun, hbreaker⟩ :=
      @run_throughBreaker_of_error ρ α now w scope (errors attempt) (by rw [hb.mode_eq]; decide)
    rw [← hop] at hrun
    have hretried : policy.retries (BreakerFailure.operation (errors attempt)) = true :=
      hretries attempt (Nat.le_refl _) (by omega)
    have hbears : (Retry.waiting policy operation attempt w').state.breaker.Bears (left + 1) := by
      rw [Retry.waiting_state, hbreaker]
      exact (hb.recordFailure _).1
    have hadd : attempt + (spare + 1) = attempt + 1 + spare := by omega
    rw [run_callFrom_of_retried hrun hretried (Scope.reason?_of_endless hscope _), hadd]
    exact ih (attempt + 1) left _ _ hbears (Nat.le_of_succ_le_succ hle) fun k hk hlt =>
      hretries k (Nat.le_of_succ_le hk) (by omega)

/-- What an API answers that is overloaded four times, and then does not have what it is asked for. -/
def recovering (attempt : Nat) : ApiFailure :=
  if attempt < 5 then .status "GET" "/v4/domains/a.io" 503 "Service Unavailable"
  else .status "GET" "/v4/domains/a.io" 404 "Domain not found"

/-- A world whose breaker has seen nothing. -/
def freshWorld : World Unit := ⟨[], .cycle [], ⟨"mailgun", {}, .closed, .closed, 0, 0, none⟩, .ofRun, ()⟩

/-- An operation that such an API answers. -/
def askRecovering (attempt : Nat) : Work Unit (Except ApiFailure Unit) := .done (.error (recovering attempt))

theorem run_recovering : ∃ t w', (guarded .api .endless "get_domain" askRecovering).run 0 freshWorld =
    some (⟨5, .error (.exhausted "get_domain" 5 (recovering 5))⟩, t, w') := by
  -- the text of an answer is searched only once, since it is the same for the first four attempts
  have hoverloaded : Policy.api.retries (ApiFailure.status "GET" "/v4/domains/a.io" 503 "Service Unavailable") = true :=
    by decide +kernel
  have hretries : ∀ k < 5, Policy.api.retries (recovering k) = true := by
    intro k hlt
    unfold recovering
    rw [if_pos hlt]
    exact hoverloaded
  exact run_callFrom_of_failing rfl 4 (fun _ => rfl) 1 4 0 freshWorld (.closed rfl rfl) (Nat.le_refl _)
    fun k _ hlt => hretries k hlt

/-- A call is exhausted by a missing domain: its four attempts before were worth another, its last was not. -/
theorem recovering_call_exhausted : ∃ t w', (guarded .api .endless "get_domain" askRecovering).run 0 freshWorld =
      some (⟨5, .error (.exhausted "get_domain" 5 (recovering 5))⟩, t, w') ∧
    (callBegins .api .endless "get_domain" askRecovering 0 freshWorld).length = 5 ∧
    Retry.FailsUpTo .api (fun k => throughBreaker .endless (askRecovering k)) 4 1 (.operation (recovering 5))
      (callBegins .api .endless "get_domain" askRecovering 0 freshWorld) := by
  obtain ⟨t, w', h⟩ := run_recovering
  obtain ⟨-, -, -, hlength, hfails, -, -⟩ := exhausted_call_made_all_attempts h
  exact ⟨t, w', h, hlength, hfails⟩

/-- That call is reported as worth another try, for an error that no attempt is made for again: not all of its attempts
failed with an error that its policy retries. -/
theorem missing_domain_exhausts_call : ∃ t w',
    (guarded .api .endless "get_domain" askRecovering).run 0 freshWorld =
      some (⟨5, .error (.exhausted "get_domain" 5 (recovering 5))⟩, t, w') ∧
    (CallFailure.exhausted "get_domain" 5 (recovering 5)).assess.retryable = true ∧
    (CallFailure.exhausted "get_domain" 5 (recovering 5)).isNotFound = true ∧
    Policy.api.retries (recovering 5) = false := by
  obtain ⟨t, w', h⟩ := run_recovering
  have hmissing : (CallFailure.exhausted "get_domain" 5 (recovering 5)).isNotFound = true ∧
      Policy.api.retries (recovering 5) = false := by decide +kernel
  exact ⟨t, w', h, rfl, hmissing⟩

end MailReconciler
