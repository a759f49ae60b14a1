/-
The effect of a guarded call on an account. Every attempt that the breaker admits asks the account once, and the account
answers at once, so nothing is ever abandoned midway. Attempts that fail leave the resources as they are, and a run ends
with its first success: so a call that succeeds has the effect of one direct call, and a call that fails has none.
-/
import MailReconciler.Proofs.Account.Answer
import MailReconciler.Proofs.Breaker.Bearing
import MailReconciler.Proofs.Client.Attempts

namespace MailReconciler

/-! ## Attempts that are answered at once -/

section Attempts

variable {ρ ε α : Type} {scope : Scope} {now : Instant}

namespace World

/-- An attempt of an operation that answers at once: its result, and the world after it. -/
def attempt (f : ρ → Except ε α × ρ) (now : Instant) (w : World ρ) : Except (BreakerFailure ε) α × World ρ :=
  let admitted := (allow now w).2
  if (allow now w).1 = true then
    ((f w.state.remote).1.mapError .operation,
      record (f w.state.remote).1.isOk now (admitted.setRemote (f w.state.remote).2))
  else (.error (.rejected w.state.breaker.name), admitted)

theorem remote_attempt (f : ρ → Except ε α × ρ) (now : Instant) (w : World ρ) :
    (w.attempt f now).2.state.remote =
      if (allow now w).1 = true then (f w.state.remote).2 else w.state.remote := by
  unfold attempt
  split <;> rfl

theorem attempt_of_admitted {f : ρ → Except ε α × ρ} {w : World ρ} (h : (allow now w).1 = true) :
    (w.attempt f now).1 = (f w.state.remote).1.mapError .operation := by
  unfold attempt
  rw [if_pos h]

theorem attempt_of_rejected {f : ρ → Except ε α × ρ} {w : World ρ} (h : (allow now w).1 = false) :
    (w.attempt f now).1 = .error (.rejected w.state.breaker.name) := by
  unfold attempt
  rw [h]
  rfl

end World

/-- The scope cannot come between an attempt and an operation that answers at once. -/
theorem run_throughBreaker_step (scope : Scope) (f : ρ → Except ε α × ρ) (now : Instant) (w : World ρ) :
    (throughBreaker scope (.step fun _ => f)).run now w = some ((w.attempt f now).1, now, (w.attempt f now).2) := by
  rw [throughBreaker_eq]
  unfold World.attempt
  cases ha : (World.allow now w).1 with
  | false =>
    simp only [Work.run, askBreaker, ha, Bool.false_eq_true, if_false]
  | true =>
    simp only [Work.run, askBreaker, ha, if_true]
    show ((concludeCall w.state.breaker.name (.ok (f w.state.remote).1)).run now
      ((World.allow now w).2.setRemote (f w.state.remote).2)) = _
    cases (f w.state.remote).1 with
    | ok value => rfl
    | error e => rfl

end Attempts

/-! ## Attempts of an account -/

section Accounts

variable {ε α : Type} {policy : Policy} {scope : Scope} {operation : String} {call : Call α} {spare attempt : Nat}
  {now t : Instant} {a : Account} {w w' : World Account} {value : α} {e : BreakerFailure ApiFailure}

/-- The attempts of a call of an account. -/
abbrev asking (scope : Scope) (call : Call α) (_ : Nat) : Work (World Account) (Except (BreakerFailure ApiFailure) α) :=
  throughBreaker scope (Account.service.perform call)

/-- The world after an attempt of a call of an account, with the result of the attempt. -/
def World.asked (call : Call α) : Instant → World Account → Except (BreakerFailure ApiFailure) α × World Account :=
  World.attempt (Account.answer · call)

theorem run_asking (scope : Scope) (call : Call α) (k : Nat) (now : Instant) (w : World Account) :
    (asking scope call k).run now w = some ((w.asked call now).1, now, (w.asked call now).2) :=
  run_throughBreaker_step scope (Account.answer · call) now w

/-- What comes of asking an account for a result: the effect of one direct call, or none. -/
def Effect (call : Call α) (a : Account) (result : Except ε α) (after : Holdings) : Prop :=
  match result with
  | .ok value => (a.answerDirectly call).1 = .ok value ∧ after = (a.answerDirectly call).2.holdings
  | .error _ => after = a.holdings

theorem asked_of_run {result : Except (BreakerFailure ApiFailure) α} {k : Nat}
    (h : (asking scope call k).run now w = some (result, t, w')) : w.asked call now = (result, w') := by
  rw [run_asking] at h
  cases h
  rfl

theorem effect_of_run {result : Except (BreakerFailure ApiFailure) α} {k : Nat}
    (ha : a.holdings = w.state.remote.holdings) (h : (asking scope call k).run now w = some (result, t, w')) :
    Effect call a result w'.state.remote.holdings := by
  have hresult : (w.asked call now).1 = result := congrArg Prod.fst (asked_of_run h)
  have hw' : (w.asked call now).2 = w' := congrArg Prod.snd (asked_of_run h)
  unfold World.asked at hresult hw'
  rw [← hw', World.remote_attempt]
  cases hadmitted : (World.allow now w).1 with
  | false =>
    -- the account has not been asked
    rw [World.attempt_of_rejected hadmitted] at hresult
    rw [← hresult]
    exact ha.symm
  | true =>
    rw [World.attempt_of_admitted hadmitted] at hresult
    rw [← hresult, if_pos rfl]
    cases hanswer : (w.state.remote.answer call).1 with
    | ok value =>
      obtain ⟨hvalue, heffect⟩ := Account.answerDirectly_of_ok hanswer ha
      exact ⟨hvalue, heffect.symm⟩
    | error e =>
      show (w.state.remote.answer call).2.holdings = a.holdings
      rw [Account.holdings_of_error hanswer, ha]

/-- An attempt is counted by the account if the breaker admits it. -/
theorem callsTo_of_run {result : Except (BreakerFailure ApiFailure) α} {k : Nat} (hc : Account.check call = .ok ())
    (h : (asking scope call k).run now w = some (result, t, w')) :
    w'.state.remote.callsTo call.name = w.state.remote.callsTo call.name + (World.allow now w).1.toNat := by
  have hw' : (w.asked call now).2 = w' := congrArg Prod.snd (asked_of_run h)
  unfold World.asked at hw'
  rw [← hw', World.remote_attempt]
  cases (World.allow now w).1 with
  | false => rfl
  | true => exact Account.callsTo_answer hc

/-! ## Whole calls -/

/-- How many of the attempts that begin in some worlds the breaker admits. -/
def admitted (begins : List (Instant × World Account)) : Nat := begins.countP fun b => (World.allow b.1 b.2).1

theorem admitted_singleton (now : Instant) (w : World Account) :
    admitted [(now, w)] = (World.allow now w).1.toNat := by
  unfold admitted
  rw [List.countP_singleton]
  cases (World.allow now w).1 <;> rfl

theorem admitted_cons (now : Instant) (w : World Account) (rest : List (Instant × World Account)) :
    admitted ((now, w) :: rest) = (World.allow now w).1.toNat + admitted rest := by
  unfold admitted
  rw [List.countP_cons, Nat.add_comm]
  cases (World.allow now w).1 <;> rfl

theorem admitted_le_length (begins : List (Instant × World Account)) : admitted begins ≤ begins.length :=
  List.countP_le_length

theorem effect_of_makes {run : Retry.Run (BreakerFailure ApiFailure) α}
    (h : Retry.Makes policy scope operation (asking scope call) spare attempt now w run t w')
    (ha : a.holdings = w.state.remote.holdings) : Effect call a run.result w'.state.remote.holdings := by
  induction h with
  | succeeds hop => exact effect_of_run ha hop
  | exhausts hop | gives hop _ | cancels hop _ _ _ _ =>
    have heffect := effect_of_run ha hop
    exact heffect
  | waits hop _ _ _ ih =>
    -- the attempt has failed, so the next one finds the resources as they were
    have heffect := effect_of_run ha hop
    exact ih heffect.symm

theorem callsTo_of_makes {run : Retry.Run (BreakerFailure ApiFailure) α} (hc : Account.check call = .ok ())
    (h : Retry.Makes policy scope operation (asking scope call) spare attempt now w run t w') :
    w'.state.remote.callsTo call.name = w.state.remote.callsTo call.name +
      admitted (Retry.begins policy scope operation (asking scope call) spare attempt now w) := by
  induction h with
  | succeeds hop => rw [Retry.begins_of_ok hop, admitted_singleton, ← callsTo_of_run hc hop]; rfl
  | exhausts hop => rw [Retry.begins, admitted_singleton, ← callsTo_of_run hc hop]; rfl
  | gives hop hp => rw [Retry.begins_of_permanent hop hp, admitted_singleton, ← callsTo_of_run hc hop]; rfl
  | cancels hop _ hs hle _ =>
    rw [Retry.begins_of_endsAt hop hs hle, admitted_singleton, ← callsTo_of_run hc hop]; rfl
  | waits hop hp hnone _ ih =>
    rw [Retry.begins_of_retried hop hp hnone, admitted_cons, ← Nat.add_assoc, ← callsTo_of_run hc hop]
    exact ih

theorem makes_asking (policy : Policy) (scope : Scope) (call : Call α) (now : Instant) (w : World Account) :
    ∃ run t w', Retry.Makes policy scope call.name (asking scope call) (Retry.spare policy) 1 now w run t w' := by
  -- an account answers at once, so every attempt ends
  have hop : ∀ k at', (asking scope call k).Ends (fun _ _ => True) at' := by
    intro k at'
    have hanswer : (Account.service.perform call).Ends (fun _ _ => True) at' := fun _ => trivial
    exact (ends_throughBreaker_of_ends scope hanswer).mono fun _ _ _ => trivial
  obtain ⟨run, t, w', hrun, -⟩ := (Retry.ends_attemptFrom_of_last hop (Retry.spare policy) 1 now).run w
  exact ⟨run, t, w', Retry.makes_of_run hrun⟩

/-- A call of an account ends, whatever its resources, the failures put before it, the policy, the breaker and the
scope. If it succeeds, it has the answer and the effect of one direct call without such failures; if it fails, the
resources are as before. With parameters that the account accepts, it is counted as often as the breaker admits an
attempt, and that is no more often than the policy allows. -/
theorem call_has_effect_of_one (policy : Policy) (scope : Scope) (call : Call α) (start : Instant) (w : World Account) :
    ∃ result t w', (Client.call ⟨Account.service, policy⟩ scope call).run start w = some (result, t, w') ∧
      Effect call w.state.remote result w'.state.remote.holdings ∧
      let begins := Retry.begins policy scope call.name (asking scope call) (Retry.spare policy) 1 start w
      (Account.check call = .ok () →
        w'.state.remote.callsTo call.name = w.state.remote.callsTo call.name + admitted begins) ∧
      (0 < policy.maxAttempts → admitted begins ≤ policy.maxAttempts.toNat) := by
  obtain ⟨run, t, w', hmakes⟩ := makes_asking policy scope call start w
  refine ⟨_, t, w', run_call hmakes, ?_, fun hc => callsTo_of_makes hc hmakes, fun hpos => ?_⟩
  · have heffect := effect_of_makes hmakes rfl
    cases hresult : run.result with
    | ok value => rw [hresult] at heffect; exact heffect
    | error e => rw [hresult] at heffect; exact heffect
  · have hlength := hmakes.length_begins
    have hattempts := hmakes.attempts_le
    have hspare : Retry.spare policy + 1 = policy.maxAttempts.toNat := Nat.sub_add_cancel hpos
    refine (admitted_le_length _).trans ?_
    omega

/-- A bounced address for the account to enter. -/
def bounceEntry : Call Unit := .createBounce { domain := "mg.example.com", address := "a@b.io" }

/-- An account that is out of service for two calls. -/
def troubledAccount : Account where
  failures := List.replicate 2 (.status "POST" "/v3/mg.example.com/bounces" 503 "Service Unavailable")

def troubledWorld : World Account :=
  ⟨[], .cycle [], ⟨"mailgun", {}, .closed, .closed, 0, 0, none⟩, .ofRun, troubledAccount⟩

/-- The address is entered once, although the account is asked three times. -/
theorem bounce_entered_once :
    (Account.check bounceEntry = .ok () ∧ 0 < Policy.api.maxAttempts) ∧
    ∃ t w', (Client.call ⟨Account.service, .api⟩ .endless bounceEntry).run 0 troubledWorld = some (.ok (), t, w') ∧
      w'.state.remote.holdings = (troubledAccount.answerDirectly bounceEntry).2.holdings ∧
      w'.state.remote.callsTo "create_bounce" = 3 ∧ 3 ≤ Policy.api.maxAttempts.toNat := by
  have hcheck : Account.check bounceEntry = .ok () := by decide +kernel
  have hpos : 0 < Policy.api.maxAttempts := by decide
  have hvalue : ((Client.call ⟨Account.service, .api⟩ .endless bounceEntry).run 0 troubledWorld).map (·.1) =
      some (.ok ()) := by decide +kernel
  have hthree : admitted (Retry.begins .api .endless bounceEntry.name (asking .endless bounceEntry) 4 1 0
      troubledWorld) = 3 := by decide +kernel
  obtain ⟨result, t, w', hrun, heffect, hcalls, hfew⟩ :=
    call_has_effect_of_one .api .endless bounceEntry 0 troubledWorld
  rw [hrun] at hvalue
  obtain rfl : result = .ok () := Option.some.inj hvalue
  have hasked := hcalls hcheck
  have hmost := hfew hpos
  rw [show Retry.spare Policy.api = 4 from rfl, hthree] at hasked hmost
  exact ⟨⟨hcheck, hpos⟩, t, w', hrun, heffect.2, hasked, hmost⟩

/-! ## Calls that their first attempt settles -/

/-- If the breaker admits a call of an account, and the answer is no failure worth another try, then the call ends with
that answer at once. The breaker is told whether it was a success. -/
theorem run_call_of_admitted (scope : Scope) {spare : Nat} (hspare : Retry.spare policy = spare + 1)
    {outcome : Except ApiFailure α} (hanswer : (w.state.remote.answer call).1 = outcome)
    (hkept : ∀ e, outcome = .error e → policy.retries (.operation e : BreakerFailure ApiFailure) = false)
    {b : Breaker} (hvisit : w.state.breaker.visit outcome.isOk (w.read now) = some b) :
    ∃ w', (Client.call ⟨Account.service, policy⟩ scope call).run now w =
        some (outcome.mapError (.refused call.name), now, w') ∧
      w'.state = ⟨b, w.state.clock, (w.state.remote.answer call).2⟩ := by
  obtain ⟨hallow, hb⟩ := Breaker.visit_eq_some hvisit
  have hadmitted : (World.allow now w).1 = true := hallow
  have hop := run_asking scope call 1 now w
  rw [World.asked, World.attempt_of_admitted hadmitted, hanswer] at hop
  have hstate : (w.attempt (Account.answer · call) now).2.state =
      ⟨b, w.state.clock, (w.state.remote.answer call).2⟩ := by
    unfold World.attempt
    rw [if_pos hadmitted, ← hb, ← hanswer]
    rfl
  cases outcome with
  | ok value => exact ⟨_, run_call (.succeeds hop), hstate⟩
  | error e =>
    have hmakes : Retry.Makes policy scope call.name (asking scope call) (spare + 1) 1 now w _ now _ :=
      .gives hop (hkept e rfl)
    rw [← hspare] at hmakes
    exact ⟨_, run_call hmakes, hstate⟩

end Accounts
end MailReconciler
