/-
Phrases in texts that quote another text. A phrase stands in a text exactly if it is an infix of it, and it never
reaches across a character that it does not hold, nor across a text that is foreign to it: so a phrase without quotes
stands in what is quoted or in the text around it. In lower case the quoted text reads as it does alone, because what
touches it on either side is no letter, and a phrase without a sigma stays where it stands.
-/
import MailReconciler.Text.Lowercase
import MailReconciler.Text.Phrase
import Mathlib.Data.List.Infix

namespace MailReconciler.Text

variable {phrase text left right before before' : List Char} {c : Char}

/-! ## Phrases -/

theorem holdsPhrase_iff : holdsPhrase phrase text = true ↔ phrase <:+: text := by
  induction text with
  | nil => simp [holdsPhrase, List.isEmpty_iff]
  | cons c rest ih =>
    rw [holdsPhrase, Bool.or_eq_true, ih, List.infix_cons_iff, List.isPrefixOf_iff_prefix]

/-- A phrase does not reach across a character that it does not hold. -/
theorem infix_append_cons (hc : c ∉ phrase) :
    phrase <:+: left ++ c :: right ↔ phrase <:+: left ∨ phrase <:+: right := by
  constructor
  · rintro ⟨s, t, h⟩
    rcases List.append_eq_append_iff.1 h with ⟨m, rfl, -⟩ | ⟨m, hs, ht⟩
    · exact .inl ⟨s, m, rfl⟩
    · -- the phrase ends behind the character, so it also begins there
      cases m with
      | nil => exact .inl ⟨s, [], by rw [hs, List.append_nil, List.append_nil]⟩
      | cons d m =>
        obtain ⟨rfl, rfl⟩ := List.cons.inj ht
        rcases List.append_eq_append_iff.1 hs with ⟨k, -, rfl⟩ | ⟨k, rfl, hk⟩
        · exact absurd (by simp) hc
        · cases k with
          | nil =>
            rw [List.nil_append] at hk
            exact absurd (hk ▸ List.mem_cons_self) hc
          | cons d k =>
            obtain ⟨-, rfl⟩ := List.cons.inj hk
            exact .inr ⟨k, t, rfl⟩
  · rintro (h | h)
    · exact h.trans (List.infix_append' [] left (c :: right))
    · exact h.trans ((List.suffix_cons c right).trans (List.suffix_append left _)).isInfix

theorem holdsPhrase_append_cons (hc : c ∉ phrase) :
    holdsPhrase phrase (left ++ c :: right) = (holdsPhrase phrase left || holdsPhrase phrase right) := by
  rw [Bool.eq_iff_iff, Bool.or_eq_true, holdsPhrase_iff, holdsPhrase_iff, holdsPhrase_iff]
  exact infix_append_cons hc

/-- A text is foreign to a phrase that neither stands in it nor reaches into it from either side. -/
def Foreign (phrase text : List Char) : Prop :=
  ¬ phrase <:+: text ∧ (∀ first ∈ phrase.inits, first ≠ [] → ¬ first <:+ text) ∧
    ∀ last ∈ phrase.tails, last ≠ [] → ¬ last <+: text ∧ ¬ text <+: last

instance : Decidable (Foreign phrase text) := inferInstanceAs (Decidable (_ ∧ _ ∧ _))

/-- A phrase does not reach across a text that is foreign to it. -/
theorem infix_around (h : Foreign phrase text) :
    phrase <:+: left ++ (text ++ right) ↔ phrase <:+: left ∨ phrase <:+: right := by
  obtain ⟨hnot, hfirst, hlast⟩ := h
  constructor
  · intro hin
    rcases List.infix_append_iff.1 hin with hl | hr | ⟨first, last, rfl, hends, hbegins⟩
    · exact .inl hl
    · rcases List.infix_append_iff.1 hr with ht | hr | ⟨first, last, rfl, hends, hbegins⟩
      · exact absurd ht hnot
      · exact .inr hr
      · -- the phrase begins in the text
        by_cases hnil : first = []
        · subst hnil
          exact .inr hbegins.isInfix
        · exact absurd hends (hfirst first ((List.mem_inits ..).2 (List.prefix_append ..)) hnil)
    · -- the phrase begins before the text
      by_cases hnil : last = []
      · subst hnil
        rw [List.append_nil]
        exact .inl hends.isInfix
      · obtain ⟨hin, hover⟩ := hlast last ((List.mem_tails ..).2 (List.suffix_append ..)) hnil
        rcases List.prefix_or_prefix_of_prefix hbegins (List.prefix_append text right) with h | h
        · exact absurd h hin
        · exact absurd h hover
  · rintro (h | h)
    · exact h.trans (List.prefix_append ..).isInfix
    · exact h.trans ((List.suffix_append text right).trans (List.suffix_append left _)).isInfix

/-! ## Lower case -/

theorem meetsLetter_cons (c : Char) (text : List Char) :
    meetsLetter (c :: text) = if isIgnorable c = true then meetsLetter text else isCased c := by
  unfold meetsLetter
  rw [List.dropWhile_cons]
  cases isIgnorable c <;> rfl

/-- What begins without a letter does not count behind a text. -/
theorem meetsLetter_append (h : meetsLetter right = false) : meetsLetter (left ++ right) = meetsLetter left := by
  induction left with
  | nil => exact h
  | cons c left ih => rw [List.cons_append, meetsLetter_cons, meetsLetter_cons, ih]

/-- What stands before a text counts only by whether a letter is met there. -/
theorem lowerFrom_congr (h : meetsLetter before = meetsLetter before') :
    lowerFrom before text = lowerFrom before' text := by
  induction text generalizing before before' with
  | nil => rfl
  | cons c text ih =>
    have hc : meetsLetter (c :: before) = meetsLetter (c :: before') := by rw [meetsLetter_cons, meetsLetter_cons, h]
    rw [lowerFrom, lowerFrom, lowerBetween, lowerBetween, h, ih hc]

theorem lowerFrom_append (h : meetsLetter right = false) :
    lowerFrom before (left ++ right) = lowerFrom before left ++ lowerFrom (left.reverse ++ before) right := by
  induction left generalizing before with
  | nil => rfl
  | cons c left ih =>
    rw [List.cons_append, lowerFrom, lowerFrom, lowerBetween, lowerBetween, meetsLetter_append h, ih,
      List.reverse_cons, List.append_assoc, List.append_assoc]
    rfl

/-- A text without a sigma is lower-cased character by character, whatever follows. -/
theorem lowerFrom_append_of_not_mem (h : 'Σ' ∉ left) :
    lowerFrom before (left ++ text) = left.flatMap lowerAlone ++ lowerFrom (left.reverse ++ before) text := by
  induction left generalizing before with
  | nil => rfl
  | cons c left ih =>
    have hc : c ≠ 'Σ' := fun he => h (he ▸ List.mem_cons_self)
    rw [List.cons_append, lowerFrom, lowerBetween, if_neg hc, ih fun hin => h (List.mem_cons_of_mem _ hin),
      List.flatMap_cons, List.reverse_cons, List.append_assoc, List.append_assoc]
    rfl

theorem lowerFrom_of_not_mem (h : 'Σ' ∉ text) : lowerFrom before text = text.flatMap lowerAlone := by
  rw [← List.append_nil text, lowerFrom_append_of_not_mem h, lowerFrom, List.append_nil, List.append_nil]

/-- A quoted text in lower case, between texts that touch it with no letter. -/
theorem lowerChars_quoted (hl : 'Σ' ∉ left) (hr : 'Σ' ∉ right) (hbefore : meetsLetter left.reverse = false)
    (hafter : meetsLetter right = false) : lowerChars (left ++ (text ++ right)) =
      left.flatMap lowerAlone ++ (lowerChars text ++ right.flatMap lowerAlone) := by
  have hnone : meetsLetter (left.reverse ++ []) = meetsLetter [] := by rw [List.append_nil, hbefore]; rfl
  rw [lowerChars, lowerChars, lowerFrom_append_of_not_mem hl, lowerFrom_append hafter, lowerFrom_of_not_mem hr,
    lowerFrom_congr hnone]

/-- A space on either side is enough. -/
theorem lowerChars_append_space : lowerChars (left ++ ' ' :: right) = lowerChars left ++ ' ' :: lowerChars right := by
  have hspace : isIgnorable ' ' = false ∧ isCased ' ' = false := by decide +kernel
  have hno (text : List Char) : meetsLetter (' ' :: text) = false := by
    rw [meetsLetter_cons, hspace.1, hspace.2]
    rfl
  have hbehind : meetsLetter (' ' :: (left.reverse ++ [])) = meetsLetter [] := hno _
  rw [lowerChars, lowerChars, lowerChars, lowerFrom_append (hno right), lowerFrom, lowerFrom_congr hbehind]
  rfl

/-- What stands behind a text is lower-cased behind it. -/
theorem exists_lowerFrom_append (left : List Char) :
    ∃ lower, lowerFrom before (left ++ text) = lower ++ lowerFrom (left.reverse ++ before) text := by
  induction left generalizing before with
  | nil => exact ⟨[], rfl⟩
  | cons c left ih =>
    obtain ⟨lower, h⟩ := @ih (c :: before)
    refine ⟨lowerBetween before c (left ++ text) ++ lower, ?_⟩
    rw [List.cons_append, lowerFrom, h, List.append_assoc, List.reverse_cons, List.append_assoc]
    rfl

/-- A phrase without a sigma that stands in a text stands in it in lower case too, whatever is around it. -/
theorem infix_lowerChars (hs : 'Σ' ∉ phrase) (h : phrase <:+: text) :
    phrase.flatMap lowerAlone <:+: lowerChars text := by
  obtain ⟨left, right, rfl⟩ := h
  obtain ⟨lower, h⟩ := @exists_lowerFrom_append (phrase ++ right) [] left
  rw [lowerChars, List.append_assoc, h, lowerFrom_append_of_not_mem hs]
  exact ⟨lower, _, List.append_assoc ..⟩

theorem toList_lowercase (text : String) : (lowercase text).toList = lowerChars text.toList := String.toList_ofList

end MailReconciler.Text
