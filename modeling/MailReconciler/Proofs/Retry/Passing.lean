/-
Failures that every policy retries. The statuses of overload and of an absent backend are written into the text of a
failure, and their digits survive lower-casing wherever they stand, whatever the method and the answer say around them;
a network timeout is retried before any text is read. Neither depends on the phrases of the policy.
-/
import MailReconciler.Breaker.Failure
import MailReconciler.Failure.Api
import MailReconciler.Retry.Classification
import MailReconciler.Proofs.Text.Quotation

namespace MailReconciler

/-- A failure of overload or of an absent backend, or a network timeout. -/
inductive ApiFailure.Passing : ApiFailure → Prop
  | status (method path detail : String) {code : Nat} : code ∈ passingCodes → Passing (.status method path code detail)
  | timeout (detail : String) (connecting : Bool) : Passing (.transport detail true connecting)

namespace Policy

variable (p : Policy)

theorem passingStatusTexts_eq : passingStatusTexts = ApiFailure.passingCodes.map toString := by decide +kernel

/-- The digits of these statuses are the same in lower case. -/
theorem passingStatusTexts_plain : ∀ text ∈ passingStatusTexts,
    'Σ' ∉ text.toList ∧ text.toList.flatMap Text.lowerAlone = text.toList := by
  decide +kernel

theorem mentions_lowercase_status (method path detail : String) {code : Nat} (hcode : code ∈ ApiFailure.passingCodes) :
    Text.mentions (Text.lowercase (ApiFailure.status method path code detail).message) (toString code) = true := by
  have hmem : toString code ∈ passingStatusTexts := by
    rw [passingStatusTexts_eq]
    exact List.mem_map_of_mem hcode
  obtain ⟨hsigma, hplain⟩ := passingStatusTexts_plain _ hmem
  have hin : (toString code).toList <:+: (ApiFailure.status method path code detail).message.toList := by
    unfold ApiFailure.message
    simp only [String.toList_append]
    rw [List.append_assoc, List.append_assoc]
    exact ⟨_, _, List.append_assoc ..⟩
  have hlower := Text.infix_lowerChars hsigma hin
  rw [hplain] at hlower
  rw [Text.mentions, Text.toList_lowercase, Text.holdsPhrase_iff]
  exact hlower

theorem retriesText_of_passing {e : ApiFailure} (h : e.Passing) : p.retriesText e.message e.signs = true := by
  unfold retriesText
  rw [Bool.or_eq_true]
  cases h with
  | timeout detail connecting => exact .inl rfl
  | @status method path detail code hcode =>
    refine .inr (Bool.or_eq_true_iff.2 (.inl (List.any_eq_true.2 ⟨toString code, ?_, ?_⟩)))
    · rw [passingStatusTexts_eq]
      exact List.mem_map_of_mem hcode
    · exact mentions_lowercase_status method path detail hcode

end Policy

/-- Every policy retries such a failure, alone or as the outcome of a call through a breaker: whatever the method, the
path and the text of the answer are, and whichever phrases the policy has, if any. -/
theorem passing_failure_retried (p : Policy) {e : ApiFailure} (h : e.Passing) :
    p.retries e = true ∧ p.retries (.operation e : BreakerFailure ApiFailure) = true :=
  ⟨p.retriesText_of_passing h, p.retriesText_of_passing h⟩

/-- A policy without phrases retries an overloaded API whose answer ends in a sigma and a dotted capital I. -/
theorem overload_retried_without_phrases :
    ({ Policy.api with phrases := [] } : Policy).retries
        (ApiFailure.status "ΣPOST" "/v3/lists/a@x.io" 503 "ΟΔΟΣ İ") = true ∧
      ({ Policy.api with phrases := [] } : Policy).retries
        (.operation (.status "ΣPOST" "/v3/lists/a@x.io" 503 "ΟΔΟΣ İ") : BreakerFailure ApiFailure) = true :=
  passing_failure_retried _ (.status _ _ _ (by decide))

end MailReconciler
