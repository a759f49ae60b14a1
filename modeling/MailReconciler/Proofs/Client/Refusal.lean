/-
Failures of the API that end a call. The text of a failure decides whether its attempt is repeated, and the text of a
status holds what the API answers: so under the phrases of a preset a status that speaks of no overload is retried
exactly if the method or the answer holds a mark, and a failure to connect exactly if its cause does. The type of a
failure calls the failures that every policy retries worth another try, and failures to connect besides: only these can
end a call for good and yet be reported as worth another try.
-/
import MailReconciler.Http.Carrier
import MailReconciler.Proofs.Client.Exhaustion
import MailReconciler.Proofs.Client.Rejection
import MailReconciler.Proofs.Retry.Passing

namespace MailReconciler

/-! ## Runs that end with their first attempt -/

namespace Retry

variable {σ ε α : Type} [Report ε] {policy : Policy} {scope : Scope} {operation operation' : String}
  {op : Nat → Work (Recorded σ) (Except ε α)} {spare attempt attempts n : Nat} {now t : Instant} {r r' : Recorded σ}
  {e : ε}

/-- A run whose first attempt fails with this error ends with it: no other attempt begins, and nothing is waited
for. -/
def Settles (policy : Policy) (e : ε) : Prop :=
  ∀ (σ α : Type) (scope : Scope) (operation : String) (op : Nat → Work (Recorded σ) (Except ε α)) (now t : Instant)
    (r r' : Recorded σ), (op 1).run now r = some (.error e, t, r') →
      (run policy scope operation op).run now r =
        some (⟨1, .error (.permanent operation 1 e)⟩, t, concluded operation .failure .permanent r')

/-- A run whose first attempt fails with this error comes to the second one when it has waited, if its scope lasts as
long. -/
def GoesOn (policy : Policy) (e : ε) : Prop :=
  ∀ (σ α : Type) (scope : Scope) (operation : String) (op : Nat → Work (Recorded σ) (Except ε α)) (now t : Instant)
    (r r' : Recorded σ), (op 1).run now r = some (.error e, t, r') →
      scope.reason? (t + (waitBehind policy 1 r').nanos) = none →
      (run policy scope operation op).run now r =
        (attemptFrom policy scope operation op (policy.maxAttempts.toNat - 2) 2).run
          (t + (waitBehind policy 1 r').nanos) (waiting policy operation 1 r')

theorem spare_eq_succ (h : 2 ≤ policy.maxAttempts.toNat) : Retry.spare policy = policy.maxAttempts.toNat - 2 + 1 := by
  unfold Retry.spare
  omega

theorem settles_of_not_retries (h : 2 ≤ policy.maxAttempts.toNat) (hp : policy.retries e = false) :
    Settles policy e := by
  intro σ α scope operation op now t r r' hop
  unfold run
  rw [spare_eq_succ h]
  exact (Makes.gives hop hp).run

theorem goesOn_of_retries (h : 2 ≤ policy.maxAttempts.toNat) (hp : policy.retries e = true) : GoesOn policy e := by
  intro σ α scope operation op now t r r' hop hnone
  unfold run
  rw [spare_eq_succ h, run_attemptFrom_of_retried hop hp, Work.run_bind_of_some _ (Work.run_pause_of_none hnone _)]
  rfl

/-- A run gives up only at an error that its policy does not retry. -/
theorem Makes.of_permanent
    (h : Makes policy scope operation op spare attempt now r ⟨attempts, .error (.permanent operation' n e)⟩ t r') :
    policy.retries e = false := by
  generalize hrun : (⟨attempts, .error (.permanent operation' n e)⟩ : Run ε α) = run at h
  induction h with
  | gives _ hp =>
    cases hrun
    exact hp
  | waits _ _ _ _ ih => exact ih hrun
  | succeeds _ => cases hrun
  | exhausts _ => cases hrun
  | cancels _ _ _ _ _ => cases hrun

end Retry

/-! ## Marks in the texts of failures -/

namespace Policy

variable {p : Policy} {m : String} {left right : List Char} {code : Nat}

/-- The policy has the phrases of a preset. -/
def HasPresetPhrases (p : Policy) : Prop := p.phrases = conservative.phrases ∨ p.phrases = api.phrases

theorem HasPresetPhrases.marks_subset (h : p.HasPresetPhrases) : p.marks ⊆ api.marks := by
  unfold marks
  rcases h with h | h
  · rw [h]
    exact marks_conservative
  · rw [h]
    exact List.Subset.refl _

/-- What stands between the method and the status of a failure. -/
def statusWords : List Char := " request failed with status ".toList

/-- What a transport failure begins with. -/
def transportWords : List Char := "transport error".toList

/-- What stands before the cause of a failure. -/
def colon : List Char := [':', ' ']

/-- No mark reaches into these words from what is put between them, and only the digits of an overload are as short as
a status. -/
theorem marks_foreign : ∀ m ∈ api.marks, Text.Foreign m.toList statusWords ∧ Text.Foreign m.toList colon ∧
    ¬ m.toList <:+: transportWords ∧ (m ∈ passingStatusTexts ∨ 3 < m.toList.length) := by
  unfold marks
  rw [phrases_api]
  decide +kernel

theorem lowerAlone_of_isDigit {c : Char} (h : c.isDigit = true) : Text.lowerAlone c = [c] := by
  have hdigit : 48 ≤ c.val ∧ c.val ≤ 57 := by simpa [Char.isDigit] using h
  have hle : c.toNat ≤ 57 := hdigit.2
  have hupper : ¬ ('A' ≤ c ∧ c ≤ 'Z') := by
    rintro ⟨hge, -⟩
    have hge : 65 ≤ c.toNat := hge
    omega
  unfold Text.lowerAlone Text.lowerAscii
  rw [if_pos (by omega), if_neg hupper]

theorem isDigit_of_mem_toString {c : Char} (h : c ∈ (toString code).toList) : c.isDigit = true := by
  have h : c ∈ (Nat.repr code).toList := h
  rw [Nat.toList_repr] at h
  exact Nat.isDigit_of_mem_toDigits (by decide) (by decide) h

/-- What stands between the method and the answer reads the same in lower case. -/
theorem flatMap_lowerAlone_status (code : Nat) :
    'Σ' ∉ statusWords.tail ++ ((toString code).toList ++ [':']) ∧
      (statusWords.tail ++ ((toString code).toList ++ [':'])).flatMap Text.lowerAlone =
        statusWords.tail ++ ((toString code).toList ++ [':']) := by
  have hwords : 'Σ' ∉ statusWords.tail ∧ statusWords.tail.flatMap Text.lowerAlone = statusWords.tail := by
    decide
  have hcolon : 'Σ' ∉ [':'] ∧ [':'].flatMap Text.lowerAlone = [':'] := by decide
  have hsigma : 'Σ' ∉ (toString code).toList := by
    intro h
    have hdigit : ('Σ').isDigit = false := by decide
    rw [isDigit_of_mem_toString h] at hdigit
    cases hdigit
  have hdigits : (toString code).toList.flatMap Text.lowerAlone = (toString code).toList := by
    rw [List.flatMap_congr fun c hc => lowerAlone_of_isDigit (isDigit_of_mem_toString hc)]
    exact List.flatMap_singleton' _
  refine ⟨?_, ?_⟩
  · simp only [List.mem_append, not_or]
    exact ⟨hwords.1, hsigma, hcolon.1⟩
  · rw [List.flatMap_append, List.flatMap_append, hwords.2, hdigits, hcolon.2]

/-- The text of a status in lower case. -/
theorem toList_lowercase_status (method path detail : String) (code : Nat) :
    (Text.lowercase (ApiFailure.status method path code detail).message).toList =
      (Text.lowercase method).toList ++ (statusWords ++ ((toString code).toList ++
        (colon ++ (Text.lowercase detail).toList))) := by
  obtain ⟨hsigma, hplain⟩ := flatMap_lowerAlone_status code
  have hwords : " request failed with status ".toList = ' ' :: statusWords.tail := rfl
  have hcolon : ": ".toList = [':'] ++ [' '] := by decide
  have htext : (ApiFailure.status method path code detail).message.toList =
      method.toList ++ ' ' :: ((statusWords.tail ++ ((toString code).toList ++ [':'])) ++ ' ' :: detail.toList) := by
    unfold ApiFailure.message
    simp only [String.toList_append, hwords, hcolon, List.append_assoc, List.cons_append, List.nil_append]
  rw [Text.toList_lowercase, Text.toList_lowercase, Text.toList_lowercase, htext, Text.lowerChars_append_space,
    Text.lowerChars_append_space, Text.lowerChars, Text.lowerChars, Text.lowerFrom_of_not_mem hsigma, hplain]
  have hspace : statusWords = ' ' :: statusWords.tail := rfl
  rw [hspace]
  simp [colon]

/-- A status of three digits that speaks of no overload is no mark. -/
theorem not_infix_status (hm : m ∈ api.marks) (hlow : code < 1000) (hcode : code ∉ ApiFailure.passingCodes) :
    ¬ m.toList <:+: (toString code).toList := by
  intro hin
  have hlength : (toString code).toList.length ≤ 3 := by
    have h : (Nat.toDigits 10 code).length ≤ 3 := (Nat.length_toDigits_le_iff (by decide) (by decide)).2 hlow
    rw [← Nat.toList_repr] at h
    exact h
  obtain ⟨-, -, -, hstatus | hlong⟩ := marks_foreign m hm
  · rw [passingStatusTexts_eq] at hstatus
    obtain ⟨passing, hpassing, rfl⟩ := List.mem_map.1 hstatus
    have hthree : ∀ k ∈ ApiFailure.passingCodes, (toString k).toList.length = 3 := by decide
    have hdigits : (Nat.repr passing).toList = (Nat.repr code).toList :=
      hin.eq_of_length_le (hlength.trans_eq (hthree passing hpassing).symm)
    rw [Nat.toList_repr, Nat.toList_repr] at hdigits
    -- the number is read back from its digits
    have hsame := congrArg (Nat.ofDigitChars 10 · 0) hdigits
    simp only [Nat.ofDigitChars_ten_toDigits] at hsame
    exact hcode (hsame ▸ hpassing)
  · have hle := hin.length_le
    omega

/-- A status that speaks of no overload holds a mark exactly if the method or the answer does. -/
theorem marksText_status (hp : p.marks ⊆ api.marks) (hlow : code < 1000) (hcode : code ∉ ApiFailure.passingCodes)
    (method path detail : String) : p.marksText (ApiFailure.status method path code detail).message =
      (p.marksText method || p.marksText detail) := by
  unfold marksText
  rw [Bool.eq_iff_iff, Bool.or_eq_true, List.any_eq_true, List.any_eq_true, List.any_eq_true, ← exists_or]
  refine exists_congr fun m => ?_
  rw [← and_or_left]
  refine and_congr_right fun hm => ?_
  obtain ⟨hwords, hcolon, -, -⟩ := marks_foreign m (hp hm)
  unfold Text.mentions
  rw [toList_lowercase_status, Text.holdsPhrase_iff, Text.holdsPhrase_iff, Text.holdsPhrase_iff,
    Text.infix_around hwords, Text.infix_around hcolon]
  refine or_congr_right ⟨fun h => h.resolve_left (not_infix_status (hp hm) hlow hcode), .inr⟩

/-- A transport failure holds a mark exactly if its cause does. -/
theorem marksText_transport (hp : p.marks ⊆ api.marks) (detail : String) (timedOut connecting : Bool) :
    p.marksText (ApiFailure.transport detail timedOut connecting).message = p.marksText detail := by
  have htext : (ApiFailure.transport detail timedOut connecting).message.toList =
      (transportWords ++ [':']) ++ ' ' :: detail.toList := by
    have hwords : "transport error: ".toList = transportWords ++ [':'] ++ [' '] := rfl
    unfold ApiFailure.message
    rw [String.toList_append, hwords, List.append_assoc]
    rfl
  have hlower : Text.lowerChars (transportWords ++ [':']) = transportWords ++ [':'] := by decide
  unfold marksText
  rw [Bool.eq_iff_iff, List.any_eq_true, List.any_eq_true]
  refine exists_congr fun m => and_congr_right fun hm => ?_
  obtain ⟨-, hcolon, hwords, -⟩ := marks_foreign m (hp hm)
  unfold Text.mentions
  rw [Text.toList_lowercase, Text.toList_lowercase, htext, Text.lowerChars_append_space, hlower, Text.holdsPhrase_iff,
    Text.holdsPhrase_iff, List.append_assoc]
  exact (Text.infix_around hcolon).trans ⟨fun h => h.resolve_left hwords, .inr⟩

end Policy

/-! ## Client errors -/

/-- Under the phrases of a preset a client error other than that of overload is retried exactly if the method or the
answer holds a mark, alone or as the outcome of a call through a breaker. Without a mark it ends a run at its first
attempt, if more than one is allowed; with one, the run goes on to its second. -/
theorem client_error_settles_unmarked {p : Policy} (hp : p.HasPresetPhrases) {code : Nat} (hlow : 400 ≤ code)
    (hhigh : code ≤ 499) (hcode : code ≠ 429) (method path detail : String) :
    let e := ApiFailure.status method path code detail
    let marked := p.marksText method || p.marksText detail
    p.retries e = marked ∧ p.retries (.operation e : BreakerFailure ApiFailure) = marked ∧
    (2 ≤ p.maxAttempts.toNat →
      (marked = false → Retry.Settles p e ∧ Retry.Settles p (BreakerFailure.operation e)) ∧
      (marked = true → Retry.GoesOn p e ∧ Retry.GoesOn p (BreakerFailure.operation e))) := by
  intro e marked
  have hpassing : code ∉ ApiFailure.passingCodes := by
    simp only [ApiFailure.passingCodes, List.mem_cons, List.not_mem_nil, or_false, not_or]
    omega
  have hretries : p.retries e = marked :=
    (p.retriesText_eq _ rfl).trans (Policy.marksText_status hp.marks_subset (by omega) hpassing method path detail)
  have hwrapped : p.retries (.operation e : BreakerFailure ApiFailure) = marked := hretries
  refine ⟨hretries, hwrapped, fun hmany => ⟨fun hmark => ?_, fun hmark => ?_⟩⟩
  · rw [hmark] at hretries hwrapped
    exact ⟨Retry.settles_of_not_retries hmany hretries, Retry.settles_of_not_retries hmany hwrapped⟩
  · rw [hmark] at hretries hwrapped
    exact ⟨Retry.goesOn_of_retries hmany hretries, Retry.goesOn_of_retries hmany hwrapped⟩

/-- A missing route ends a run under the preset for the API, and is asked for once. -/
theorem missing_route_settles : Policy.api.HasPresetPhrases ∧ 2 ≤ Policy.api.maxAttempts.toNat ∧
    Retry.Settles .api (ApiFailure.status "GET" "/v3/routes/5f0429502abc" 404 "Route not found") ∧
    Retry.Settles .api
      (BreakerFailure.operation (ApiFailure.status "GET" "/v3/routes/5f0429502abc" 404 "Route not found")) := by
  have hp : Policy.api.HasPresetPhrases := .inr rfl
  have hmarked : (Policy.api.marksText "GET" || Policy.api.marksText "Route not found") = false := by
    rw [Policy.marksText, Policy.marksText, Policy.marks, Policy.phrases_api]
    decide
  obtain ⟨-, -, hsettles⟩ := @client_error_settles_unmarked .api hp 404 (by decide) (by decide) (by decide) "GET"
    "/v3/routes/5f0429502abc" "Route not found"
  exact ⟨hp, by decide, (hsettles (by decide)).1 hmarked⟩

/-- An answer that names a route whose identifier holds the digits of an overload. -/
def namedRoute : ApiFailure := .status "GET" "/v3/routes/5f0429502abc" 404 "Route 5f0429502abc not found"

/-- A missing route with such an identifier is retried by both presets when the answer names it: a run that only meets
this answer asks for the route more than once. -/
theorem named_route_retried : (∀ policy ∈ [Policy.conservative, Policy.api], policy.retries namedRoute = true ∧
      policy.retries (.operation namedRoute : BreakerFailure ApiFailure) = true) ∧
    ∀ random, ∃ run t r', (Retry.run .api .endless "get_route" fun _ =>
      (.done (.error namedRoute) : Work (Recorded Unit) (Except ApiFailure Unit))).run 0 ⟨[], random, ()⟩ =
        some (run, t, r') ∧ 2 ≤ run.attempts := by
  have hretried : ∀ policy ∈ [Policy.conservative, Policy.api], policy.retries namedRoute = true ∧
      policy.retries (.operation namedRoute : BreakerFailure ApiFailure) = true := by decide
  refine ⟨hretried, fun random => ?_⟩
  have hends := @Retry.ends_attemptFrom_of_last Unit ApiFailure Unit _ .api .endless "get_route"
    (fun _ => .done (.error namedRoute)) (fun _ => True) (fun _ _ => trivial) 3 2
  have hnext := @Retry.goesOn_of_retries ApiFailure _ .api namedRoute (by decide) (hretried .api (by simp)).1 Unit Unit
    .endless "get_route" (fun _ => .done (.error namedRoute)) 0 0 ⟨[], random, ()⟩ _ rfl rfl
  obtain ⟨run, t, r', hrun, -⟩ := (hends _).run _
  exact ⟨run, t, r', hnext.trans hrun, (Retry.makes_of_run hrun).le_attempts⟩

/-! ## Failures that end a call for good -/

/-- By its type, a failure is worth another try if every policy retries it, or if it is a failure to connect. -/
theorem ApiFailure.assess_retryable_iff {e : ApiFailure} :
    e.assess.retryable = true ↔ e.Passing ∨ ∃ detail, e = .transport detail false true := by
  constructor
  · intro h
    cases e with
    | status method path code detail => exact .inl (.status method path detail (List.contains_iff_mem.1 h))
    | transport detail timedOut connecting =>
      cases timedOut with
      | true => exact .inl (.timeout detail connecting)
      | false =>
        obtain rfl : connecting = true := h
        exact .inr ⟨detail, rfl⟩
    | decode detail => cases h
    | invalidRequest detail => cases h
  · rintro (h | ⟨detail, rfl⟩)
    · cases h with
      | status method path detail hcode => exact List.contains_iff_mem.2 hcode
      | timeout detail connecting => rfl
    · rfl

theorem ofRetry_eq_refused {failure : RetryFailure (BreakerFailure ApiFailure)} {operation : String} {e : ApiFailure}
    (h : CallFailure.ofRetry failure = .refused operation e) : ∃ n, failure = .permanent operation n (.operation e) := by
  cases failure with
  | exhausted _ _ last => cases last <;> cases h
  | permanent _ n last =>
    cases last with
    | operation e' =>
      cases h
      exact ⟨n, rfl⟩
    | rejected _ => cases h
    | interrupted _ _ => cases h
  | cancelled _ _ _ _ => cases h

/-- A call is refused only for a failure of the API that its policy does not retry. -/
theorem not_retries_of_refused {ρ α : Type} {policy : Policy} {scope : Scope} {operation operation' : String}
    {op : Nat → Work ρ (Except ApiFailure α)} {now t : Instant} {w w' : World ρ} {attempts : Nat} {e : ApiFailure}
    (h : (guarded policy scope operation op).run now w =
      some (⟨attempts, .error (.refused operation' e)⟩, t, w')) : policy.retries e = false := by
  rw [guarded_eq_callFrom] at h
  obtain ⟨⟨made, result⟩, hmakes, hrun⟩ := makes_of_run_callFrom h
  have hresult : Except.error (.refused operation' e) = result.mapError CallFailure.ofRetry :=
    congrArg CallRun.result hrun
  cases result with
  | ok value => cases hresult
  | error failure =>
    obtain ⟨n, rfl⟩ := ofRetry_eq_refused (Except.error.inj hresult).symm
    exact hmakes.of_permanent

/-- What is worth another try by its type and yet not retried is a failure to connect. -/
theorem connecting_of_not_retries {policy : Policy} {e : ApiFailure} (he : e.assess.retryable = true)
    (hno : policy.retries e = false) : ∃ detail, e = .transport detail false true := by
  refine (ApiFailure.assess_retryable_iff.1 he).resolve_left fun h => ?_
  have hyes : policy.retries e = true := policy.retriesText_of_passing h
  rw [hno] at hyes
  cases hyes

theorem retries_connecting (detail : String) :
    Policy.api.retries (ApiFailure.transport detail false true) = Policy.api.marksText detail := by
  have hsubset : Policy.api.marks ⊆ Policy.api.marks := List.Subset.refl _
  exact (Policy.api.retriesText_eq _ rfl).trans (Policy.marksText_transport hsubset detail false true)

/-- Of the failures that are worth another try by their type, the preset for the API refuses exactly the failures to
connect whose cause holds no mark. So a call that ends for good with a failure of the API is reported as worth another
try exactly if that is a failure to connect. -/
theorem refused_call_assessed :
    (∀ e : ApiFailure, e.assess.retryable = true →
      (Policy.api.retries e = false ↔
        ∃ detail, e = .transport detail false true ∧ Policy.api.marksText detail = false)) ∧
    ∀ {ρ α : Type} {scope : Scope} {operation operation' : String} {op : Nat → Work ρ (Except ApiFailure α)}
      {now t : Instant} {w w' : World ρ} {attempts : Nat} {e : ApiFailure},
      (guarded .api scope operation op).run now w = some (⟨attempts, .error (.refused operation' e)⟩, t, w') →
      Policy.api.retries e = false ∧
      ((CallFailure.refused operation' e).assess.retryable = true ↔ ∃ detail, e = .transport detail false true) := by
  refine ⟨?_, ?_⟩
  · intro e he
    constructor
    · intro hno
      obtain ⟨detail, rfl⟩ := connecting_of_not_retries he hno
      exact ⟨detail, rfl, (retries_connecting detail).symm.trans hno⟩
    · rintro ⟨detail, rfl, hmark⟩
      exact (retries_connecting detail).trans hmark
  · intro ρ α scope operation operation' op now t w w' attempts e h
    have hno := not_retries_of_refused h
    refine ⟨hno, fun he => connecting_of_not_retries he hno, ?_⟩
    rintro ⟨detail, rfl⟩
    rfl

/-- The failure to connect when there is no way to the API. -/
def noWay : ApiFailure := HttpError.unreachable.failure

/-- An operation that fails so. -/
def askInVain (_ : Nat) : Work Unit (Except ApiFailure Unit) := .done (.error noWay)

theorem noWay_eq : noWay = .transport
    "error sending request: client error (Connect): tcp connect error: Network is unreachable (os error 101)" false
    true := by
  decide +kernel

theorem not_retries_noWay : Policy.api.retries noWay = false := by
  rw [noWay_eq, retries_connecting]
  refine (Policy.marksText_of_toList _ String.toList_ofList).trans ?_
  rw [Policy.marks, Policy.phrases_api]
  decide

theorem run_askInVain : ∃ w', (guarded .api .endless "get_domain" askInVain).run 0 freshWorld =
    some (⟨1, .error (.refused "get_domain" noWay)⟩, 0, w') := by
  obtain ⟨w', hrun, -⟩ := @run_throughBreaker_of_error Unit Unit 0 freshWorld .endless noWay (by decide)
  have hretries : Policy.api.retries (.operation noWay : BreakerFailure ApiFailure) = false := not_retries_noWay
  exact ⟨_, run_callFrom (.gives hrun hretries)⟩

/-- Without a way to the API a call is refused at its first attempt, and its cause holds no mark. -/
theorem unreachable_api_refused : (∃ w', (guarded .api .endless "get_domain" askInVain).run 0 freshWorld =
      some (⟨1, .error (.refused "get_domain" noWay)⟩, 0, w')) ∧
    noWay.assess.retryable = true ∧ (∃ detail, noWay = .transport detail false true ∧
      Policy.api.marksText detail = false) ∧
    ((CallFailure.refused "get_domain" noWay).assess.retryable = true ↔
      ∃ detail, noWay = .transport detail false true) := by
  obtain ⟨w', hrun⟩ := run_askInVain
  obtain ⟨hfailures, hcalls⟩ := refused_call_assessed
  obtain ⟨hno, hiff⟩ := hcalls hrun
  exact ⟨⟨w', hrun⟩, rfl, (hfailures noWay rfl).1 hno, hiff⟩

/-- That failure is worth another try by its type, the preset for the API does not retry it, and the call that it ends
for good is reported as worth another try. -/
theorem unreachable_api_reported : noWay.assess.retryable = true ∧ Policy.api.retries noWay = false ∧
    ∃ w', (guarded .api .endless "get_domain" askInVain).run 0 freshWorld =
      some (⟨1, .error (.refused "get_domain" noWay)⟩, 0, w') ∧
      (CallFailure.refused "get_domain" noWay).assess.retryable = true := by
  obtain ⟨w', hrun⟩ := run_askInVain
  exact ⟨rfl, not_retries_noWay, w', hrun, rfl⟩

end MailReconciler
