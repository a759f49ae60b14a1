/-
ASCII letters in lower case, and blanks. Beyond ASCII only two characters have an ASCII letter in their lower-case
form, the dotted capital I and the Kelvin sign, so a word without an i and a k is the lower-case form of nothing but
itself with other letter cases.
-/
import MailReconciler.Text.Blank
import MailReconciler.Proofs.Text.Quotation
import Mathlib.Data.List.TakeWhile

namespace MailReconciler.Text

variable {text word before after : List Char} {c d : Char}

/-! ## Letters -/

theorem lowerAscii_of_ge (h : 0x80 ≤ c.toNat) : lowerAscii c = c := by
  refine if_neg ?_
  rintro ⟨-, hle⟩
  have hle : c.toNat ≤ 'Z'.toNat := hle
  have hZ : 'Z'.toNat = 90 := rfl
  omega

theorem lowerRuns_valid : ∀ run ∈ lowerRuns, run.target + (run.last - run.first) < 0xD800 ∨
    0xE000 ≤ run.target ∧ run.target + (run.last - run.first) < 0x110000 := by
  decide +kernel

/-- The Kelvin sign alone is not ASCII but has a lower-case form that is. -/
theorem target_of_mem_lowerRuns :
    ∀ run ∈ lowerRuns, 0x80 ≤ run.target ∨ run.target = 'k'.toNat ∧ run.first = run.last := by
  decide +kernel

theorem toNat_charOfNat {n : Nat} (h : n.isValidChar) : (Char.ofNat n).toNat = n := by
  rw [Char.ofNat, dif_pos h]
  rfl

/-- What has a lower-case form with an ASCII character is ASCII itself, or it gives an i or a k. -/
theorem ascii_of_mem_lowerAlone (hd : d ∈ lowerAlone c) (hascii : d.toNat < 0x80) (hi : d ≠ 'i') (hk : d ≠ 'k') :
    c.toNat < 0x80 := by
  by_contra hc
  rw [lowerAlone, if_neg hc] at hd
  split at hd
  · rcases List.mem_cons.1 hd with rfl | hd
    · exact hi rfl
    · obtain rfl := List.mem_singleton.1 hd
      exact absurd hascii (by decide)
  · obtain rfl := List.mem_singleton.1 hd
    cases hrun : lowerRuns.findSome? (·.lower? c.toNat) with
    | none =>
      rw [hrun] at hascii
      exact hc hascii
    | some n =>
      obtain ⟨run, hmem, hlower⟩ := List.exists_of_findSome?_eq_some hrun
      rw [CaseRun.lower?] at hlower
      split at hlower
      · rename_i hrange
        obtain rfl := Option.some.inj hlower
        have hvalid : (run.target + (c.toNat - run.first)).isValidChar := by
          have hbounds := lowerRuns_valid run hmem
          unfold Nat.isValidChar
          omega
        rw [hrun, Option.map_some, Option.getD_some] at hascii hk
        rw [toNat_charOfNat hvalid] at hascii
        rcases target_of_mem_lowerRuns run hmem with htarget | ⟨htarget, hfirst⟩
        · omega
        · exact hk (by rw [htarget, show c.toNat - run.first = 0 by omega]; rfl)
      · cases hlower

theorem lowerBetween_of_ascii (h : c.toNat < 0x80) : lowerBetween before c after = [lowerAscii c] := by
  have hsigma : c ≠ 'Σ' := by
    rintro rfl
    exact absurd h (by decide)
  rw [lowerBetween, if_neg hsigma, lowerAlone, if_pos h]

theorem lowerBetween_ne_nil : lowerBetween before c after ≠ [] := by
  unfold lowerBetween lowerAlone
  repeat' split
  all_goals exact List.cons_ne_nil _ _

theorem ascii_of_mem_lowerBetween (hd : d ∈ lowerBetween before c after) (hascii : d.toNat < 0x80) (hi : d ≠ 'i')
    (hk : d ≠ 'k') : c.toNat < 0x80 := by
  unfold lowerBetween at hd
  split at hd
  · have hsigmas : ('ς'.toNat < 0x80 → False) ∧ ('σ'.toNat < 0x80 → False) := by decide
    split at hd <;> obtain rfl := List.mem_singleton.1 hd
    · exact absurd hascii hsigmas.1
    · exact absurd hascii hsigmas.2
  · exact ascii_of_mem_lowerAlone hd hascii hi hk

/-- An ASCII word without an i and a k is the lower-case form of itself in any letter case, and of nothing else. -/
theorem lowerFrom_eq_iff (hword : ∀ d ∈ word, d.toNat < 0x80 ∧ d ≠ 'i' ∧ d ≠ 'k') :
    lowerFrom before text = word ↔ text.map lowerAscii = word := by
  induction text generalizing before word with
  | nil => rfl
  | cons c rest ih =>
    rw [lowerFrom, List.map_cons]
    by_cases hc : c.toNat < 0x80
    · rw [lowerBetween_of_ascii hc, List.singleton_append]
      cases word with
      | nil => simp
      | cons d word => simp [ih fun e he => hword e (List.mem_cons_of_mem _ he)]
    · -- neither form of the character is part of the word
      have hnot : ∀ d ∈ word, d ∉ lowerBetween before c rest := fun d hd hin =>
        hc (ascii_of_mem_lowerBetween hin (hword d hd).1 (hword d hd).2.1 (hword d hd).2.2)
      constructor
      · rintro rfl
        obtain ⟨d, hd⟩ := List.exists_mem_of_ne_nil _ (@lowerBetween_ne_nil before rest c)
        exact absurd hd (hnot d (List.mem_append_left _ hd))
      · rintro rfl
        rw [lowerAscii_of_ge (Nat.le_of_not_lt hc)] at hword
        exact absurd (hword c List.mem_cons_self).1 hc

/-! ## Letter case -/

/-- Only the twenty-six capital letters are changed. -/
theorem apply_lowerAscii {β : Type} {f : Char → β}
    (h : ∀ n < 26, f (Char.ofNat (n + 97)) = f (Char.ofNat (n + 65))) (c : Char) : f (lowerAscii c) = f c := by
  unfold lowerAscii
  split
  · rename_i hletter
    have hbounds : 65 ≤ c.toNat ∧ c.toNat ≤ 90 := hletter
    have hc := h (c.toNat - 65) (by omega)
    rwa [show c.toNat - 65 + 97 = c.toNat + 32 by omega, show c.toNat - 65 + 65 = c.toNat by omega,
      Char.ofNat_toNat] at hc
  · rfl

theorem ascii_lowerAscii_iff : (lowerAscii c).toNat < 0x80 ↔ c.toNat < 0x80 := by
  have h : decide ((lowerAscii c).toNat < 0x80) = decide (c.toNat < 0x80) :=
    apply_lowerAscii (f := fun c => decide (c.toNat < 0x80)) (by decide) c
  exact decide_eq_decide.1 h

theorem isIgnorable_lowerAscii (c : Char) : isIgnorable (lowerAscii c) = isIgnorable c :=
  apply_lowerAscii (by decide +kernel) c

theorem isCased_lowerAscii (c : Char) : isCased (lowerAscii c) = isCased c :=
  apply_lowerAscii (by decide +kernel) c

theorem meetsLetter_map_lowerAscii : meetsLetter (text.map lowerAscii) = meetsLetter text := by
  induction text with
  | nil => rfl
  | cons c rest ih =>
    rw [List.map_cons, meetsLetter_cons, meetsLetter_cons, isIgnorable_lowerAscii, isCased_lowerAscii, ih]

theorem lowerBetween_map_lowerAscii :
    lowerBetween (before.map lowerAscii) (lowerAscii c) (after.map lowerAscii) = lowerBetween before c after := by
  by_cases hc : c.toNat < 0x80
  · rw [lowerBetween_of_ascii hc, lowerBetween_of_ascii (ascii_lowerAscii_iff.2 hc),
      apply_lowerAscii (f := lowerAscii) (by decide)]
  · rw [lowerAscii_of_ge (Nat.le_of_not_lt hc), lowerBetween, lowerBetween, meetsLetter_map_lowerAscii,
      meetsLetter_map_lowerAscii]

/-- The ASCII letters around a character do not count by their case, so neither a sigma nor any other character is
lower-cased in another way when the case of some of them changes. -/
theorem lowerFrom_map_lowerAscii : lowerFrom (before.map lowerAscii) (text.map lowerAscii) = lowerFrom before text := by
  induction text generalizing before with
  | nil => rfl
  | cons c rest ih => rw [List.map_cons, lowerFrom, lowerFrom, lowerBetween_map_lowerAscii, ← List.map_cons, ih]

theorem lowercase_lowercaseAscii (text : String) : lowercase (lowercaseAscii text) = lowercase text := by
  rw [lowercase, lowercaseAscii, String.toList_ofList, lowerChars, ← List.map_nil, lowerFrom_map_lowerAscii]
  rfl

/-- An ASCII text is lower-cased letter by letter. -/
theorem flatMap_lowerAlone_of_ascii (h : ∀ c ∈ text, c.toNat < 0x80) :
    text.flatMap lowerAlone = text.map lowerAscii := by
  induction text with
  | nil => rfl
  | cons c rest ih =>
    have hc : lowerAlone c = [lowerAscii c] := if_pos (h c List.mem_cons_self)
    rw [List.flatMap_cons, hc, ih fun d hd => h d (List.mem_cons_of_mem _ hd)]
    rfl

theorem sigma_not_mem_of_ascii (h : ∀ c ∈ text, c.toNat < 0x80) : 'Σ' ∉ text :=
  fun hin => absurd (h _ hin) (by decide)

/-! ## Blanks -/

theorem isBlank_lowerAscii (c : Char) : isBlank (lowerAscii c) = isBlank c := apply_lowerAscii (by decide) c

theorem stripChars_eq_nil_iff {drop : Char → Bool} : stripChars drop text = [] ↔ text.all drop = true := by
  have htake : (text.takeWhile drop).all drop = true := List.all_takeWhile
  rw [stripChars, List.reverse_eq_nil_iff, List.dropWhile_eq_nil_iff, ← List.all_eq_true, List.all_reverse]
  conv_rhs => rw [← List.takeWhile_append_dropWhile (p := drop) (l := text), List.all_append, htake, Bool.true_and]

theorem stripChars_map {drop : Char → Bool} {f : Char → Char} (h : ∀ c, drop (f c) = drop c) :
    stripChars drop (text.map f) = (stripChars drop text).map f := by
  have hcomp : drop ∘ f = drop := funext h
  simp only [stripChars, List.dropWhile_map, ← List.map_reverse, hcomp]

/-- Blanks are no letters, so what is trimmed does not depend on the letter case. -/
theorem lowercaseAscii_trim (text : String) : lowercaseAscii (trim text) = trim (lowercaseAscii text) := by
  simp only [lowercaseAscii, trim, String.toList_ofList, stripChars_map isBlank_lowerAscii]

theorem trim_eq_empty_iff {text : String} : trim text = "" ↔ isBlankText text = true := by
  rw [trim, isBlankText, ← stripChars_eq_nil_iff, ← String.toList_eq_nil_iff, String.toList_ofList]

end MailReconciler.Text
