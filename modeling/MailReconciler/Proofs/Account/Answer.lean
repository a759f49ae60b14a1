/-
How an account in memory answers a call: it refuses the parameters, or counts the call and then gives the failure that
was put before it, a failure of its own, or an answer. Only an answer changes the resources.
-/
import MailReconciler.Account.Basic

namespace MailReconciler.Account

variable {α : Type} {a b : Account} {call : Call α} {value : α} {e : ApiFailure}

@[simp] theorem countCall_holdings (a : Account) (operation : String) : (a.countCall operation).holdings = a.holdings :=
  rfl

@[simp] theorem countCall_failures (a : Account) (operation : String) : (a.countCall operation).failures = a.failures :=
  rfl

@[simp] theorem callsTo_countCall (a : Account) (operation : String) :
    (a.countCall operation).callsTo operation = a.callsTo operation + 1 := by
  simp [callsTo, countCall]

/-! ## Answers -/

/-- The ways in which a call is answered, each with the account afterwards. -/
inductive Answers (a : Account) (call : Call α) : Except ApiFailure α → Account → Prop
  | refused {e : ApiFailure} : check call = .error e → Answers a call (.error e) a
  | injected {e : ApiFailure} {rest : List ApiFailure} : check call = .ok () → a.failures = e :: rest →
      Answers a call (.error e) { a.countCall call.name with failures := rest }
  | failed {e : ApiFailure} : check call = .ok () → a.failures = [] → a.holdings.perform call = .error e →
      Answers a call (.error e) (a.countCall call.name)
  | carriedOut {value : α} {holdings : Holdings} : check call = .ok () → a.failures = [] →
      a.holdings.perform call = .ok (value, holdings) →
      Answers a call (.ok value) { a.countCall call.name with holdings }

theorem answer_of_refused (hc : check call = .error e) : a.answer call = (.error e, a) := by
  unfold answer
  rw [hc]

theorem answer_of_injected {rest : List ApiFailure} (hc : check call = .ok ()) (hf : a.failures = e :: rest) :
    a.answer call = (.error e, { a.countCall call.name with failures := rest }) := by
  simp only [answer, hc, hf]

theorem answer_of_failed (hc : check call = .ok ()) (hf : a.failures = []) (hp : a.holdings.perform call = .error e) :
    a.answer call = (.error e, a.countCall call.name) := by
  simp only [answer, hc, hf, hp]

theorem answer_of_carriedOut {holdings : Holdings} (hc : check call = .ok ()) (hf : a.failures = [])
    (hp : a.holdings.perform call = .ok (value, holdings)) :
    a.answer call = (.ok value, { a.countCall call.name with holdings }) := by
  simp only [answer, hc, hf, hp]

theorem answers (a : Account) (call : Call α) : a.Answers call (a.answer call).1 (a.answer call).2 := by
  cases hc : check call with
  | error e =>
    rw [answer_of_refused hc]
    exact .refused hc
  | ok _ =>
    cases hf : a.failures with
    | cons e rest =>
      rw [answer_of_injected hc hf]
      exact .injected hc hf
    | nil =>
      cases hp : a.holdings.perform call with
      | error e =>
        rw [answer_of_failed hc hf hp]
        exact .failed hc hf hp
      | ok done =>
        rw [answer_of_carriedOut hc hf hp]
        exact .carriedOut hc hf hp

/-- A call that is answered by a failure leaves the resources as they are. -/
theorem holdings_of_error (h : (a.answer call).1 = .error e) : (a.answer call).2.holdings = a.holdings := by
  have ha := a.answers call
  generalize (a.answer call).2 = b at ha ⊢
  rw [h] at ha
  cases ha with
  | refused _ => rfl
  | injected _ _ => rfl
  | failed _ _ _ => rfl

/-- A call whose parameters are accepted is counted, however it is answered. -/
theorem callsTo_answer (h : check call = .ok ()) : (a.answer call).2.callsTo call.name = a.callsTo call.name + 1 := by
  have ha := a.answers call
  generalize (a.answer call).1 = outcome, (a.answer call).2 = b at ha ⊢
  cases ha with
  | refused hc => rw [h] at hc; cases hc
  | injected _ _ => exact callsTo_countCall a call.name
  | failed _ _ _ => exact callsTo_countCall a call.name
  | carriedOut _ _ _ => exact callsTo_countCall a call.name

/-! ## Direct calls -/

/-- A call before which no failures are put. -/
def answerDirectly (a : Account) (call : Call α) : Except ApiFailure α × Account :=
  { a with failures := [] }.answer call

/-- An answer is that of a direct call, and changes the resources in the same way. -/
theorem answerDirectly_of_ok (h : (a.answer call).1 = .ok value) (hb : b.holdings = a.holdings) :
    (b.answerDirectly call).1 = .ok value ∧ (b.answerDirectly call).2.holdings = (a.answer call).2.holdings := by
  have ha := a.answers call
  generalize (a.answer call).2 = a' at ha ⊢
  rw [h] at ha
  cases ha with
  | @carriedOut _ holdings hc _ hp =>
    have hdirect : b.answerDirectly call =
        (.ok value, { countCall { b with failures := [] } call.name with holdings }) :=
      answer_of_carriedOut hc rfl (hb ▸ hp)
    rw [hdirect]
    exact ⟨rfl, rfl⟩

end MailReconciler.Account
