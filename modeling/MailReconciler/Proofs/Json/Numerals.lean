/-
Numerals. The grammar lets a numeral end anywhere behind its parts, and the reader goes on as long as it can: the two
agree where the text goes on with nothing that could belong to the numeral.
-/
import MailReconciler.Proofs.Json.Grammar

namespace MailReconciler.Json

open Text (Glyphs)
open Decimal (isDigit)
open Grammar

variable {t r : Glyphs} {c : Char}

/-- If a text begins with a character, then with one of some kind. -/
def Begins (p : Char → Prop) (t : Glyphs) : Prop := ∀ c r, t = some c :: r → p c

theorem begins_cons {p : Char → Prop} (hc : p c) (t : Glyphs) : Begins p (some c :: t) := by
  intro d rest heq
  cases heq
  exact hc

/-- A character that does not belong to a numeral before it. -/
abbrev EndsNumeral (c : Char) : Prop := isDigit c = false ∧ c ≠ '.' ∧ c ≠ 'e' ∧ c ≠ 'E'

theorem Grammar.Blanks.begins (h : Blanks t r) (hr : Begins EndsNumeral r) : Begins EndsNumeral t := by
  cases h with
  | done => exact hr
  | more hc _ =>
    refine begins_cons ?_ _
    rcases hc with rfl | rfl | rfl | rfl <;> decide

theorem takeDigits_append (t : Glyphs) : (takeDigits t).1.map some ++ (takeDigits t).2 = t := by
  fun_induction takeDigits t with
  | case1 c rest hc digits rest' heq ih =>
    rw [heq] at ih
    exact congrArg (some c :: ·) ih
  | case2 c rest hc => rfl
  | case3 t h => rfl

theorem isDigit_of_mem_takeDigits (hc : c ∈ (takeDigits t).1) : isDigit c = true := by
  fun_induction takeDigits t with
  | case1 d rest hd digits rest' heq ih =>
    rw [heq] at ih
    rcases List.mem_cons.1 hc with rfl | hc
    · exact hd
    · exact ih hc
  | case2 d rest hd => cases hc
  | case3 t h => cases hc

theorem takeDigits_of_digits {digits : List Char} (hdigits : ∀ c ∈ digits, isDigit c = true)
    (hr : Begins (isDigit · = false) r) : takeDigits (digits.map some ++ r) = (digits, r) := by
  induction digits with
  | nil =>
    cases r with
    | nil => rfl
    | cons g r =>
      cases g with
      | none => rfl
      | some c =>
        show takeDigits (some c :: r) = _
        rw [takeDigits, hr c r rfl, if_neg Bool.false_ne_true]
  | cons d digits ih =>
    show takeDigits (some d :: (digits.map some ++ r)) = _
    rw [takeDigits, if_pos (hdigits d List.mem_cons_self), ih fun c hc => hdigits c (List.mem_cons_of_mem _ hc)]

theorem digits?_eq_some {digits : List Char} (h : digits? t = some (digits, r)) :
    digits ≠ [] ∧ (∀ c ∈ digits, isDigit c = true) ∧ t = digits.map some ++ r := by
  unfold digits? at h
  by_cases hempty : (takeDigits t).1.isEmpty
  · simp only [hempty, if_true] at h
    cases h
  · simp only [hempty] at h
    cases h
    exact ⟨fun hnil => hempty (by rw [hnil]; rfl), fun c hc => isDigit_of_mem_takeDigits hc, (takeDigits_append t).symm⟩

theorem digits?_of_digits {digits : List Char} (hne : digits ≠ []) (hdigits : ∀ c ∈ digits, isDigit c = true)
    (hr : Begins (isDigit · = false) r) : digits? (digits.map some ++ r) = some (digits, r) := by
  unfold digits?
  rw [takeDigits_of_digits hdigits hr]
  simp [hne]

/-! ### Parts of a number -/

theorem fraction_of_fraction? {part : Option (List Char)} (h : fraction? t = some (part, r)) : Fraction t r := by
  unfold fraction? at h
  split at h
  · next rest =>
    obtain ⟨⟨digits, r'⟩, hdigits, heq⟩ := Option.map_eq_some_iff.1 h
    cases heq
    exact .present ⟨digits, digits?_eq_some hdigits⟩
  · cases h
    exact .absent _

theorem Grammar.Fraction.exists_fraction? (h : Fraction t r) (hr : Begins (fun c => isDigit c = false ∧ c ≠ '.') r) :
    ∃ part, fraction? t = some (part, r) := by
  cases h with
  | absent =>
    unfold fraction?
    split
    · next rest => exact absurd rfl (hr _ _ rfl).2
    · exact ⟨_, rfl⟩
  | present h =>
    obtain ⟨digits, hne, hdigits, rfl⟩ := h
    have hread := digits?_of_digits hne hdigits fun c t hc => (hr c t hc).1
    exact ⟨some digits, by rw [fraction?, hread]; rfl⟩

theorem exponent_of_exponent? {part : Option (Bool × List Char)} (h : exponent? t = some (part, r)) : Exponent t r := by
  unfold exponent? at h
  split at h
  · next c rest =>
    split at h
    · next hc =>
      obtain ⟨⟨digits, r'⟩, hdigits, heq⟩ := Option.map_eq_some_iff.1 h
      cases heq
      have hread := digits?_eq_some hdigits
      split at hread
      · exact .present hc (.present (by simp)) ⟨digits, hread⟩
      · exact .present hc (.present (by simp)) ⟨digits, hread⟩
      · exact .present hc (.absent _) ⟨digits, hread⟩
    · cases h
      exact .absent _
  · cases h
    exact .absent _

/-- Some digits begin with one. -/
theorem exists_eq_cons_of_digits {digits : List Char} (hne : digits ≠ []) (hdigits : ∀ c ∈ digits, isDigit c = true)
    (r : Glyphs) : ∃ c rest, digits.map some ++ r = some c :: rest ∧ isDigit c = true := by
  cases digits with
  | nil => exact absurd rfl hne
  | cons c digits => exact ⟨c, digits.map some ++ r, rfl, hdigits c List.mem_cons_self⟩

theorem Grammar.Exponent.exists_exponent? (h : Exponent t r)
    (hr : Begins (fun c => isDigit c = false ∧ c ≠ 'e' ∧ c ≠ 'E') r) : ∃ part, exponent? t = some (part, r) := by
  cases h with
  | absent =>
    unfold exponent?
    split
    · next c rest =>
      obtain ⟨-, he, hE⟩ := hr c rest rfl
      exact ⟨_, if_neg (not_or.2 ⟨he, hE⟩)⟩
    · exact ⟨_, rfl⟩
  | @present c t t₁ _ hc sign h =>
    obtain ⟨digits, hne, hdigits, rfl⟩ := h
    have hread := digits?_of_digits hne hdigits fun c t hc => (hr c t hc).1
    cases sign with
    | absent =>
      obtain ⟨d, rest, heq, hd⟩ := exists_eq_cons_of_digits hne hdigits r
      have hminus : d ≠ '-' := by rintro rfl; exact absurd hd (by decide)
      have hplus : d ≠ '+' := by rintro rfl; exact absurd hd (by decide)
      rw [heq] at hread ⊢
      rw [exponent?.eq_def]
      simp only [if_pos hc]
      split
      · next h =>
        cases h
        exact absurd rfl hminus
      · next h =>
        cases h
        exact absurd rfl hplus
      · rw [hread]
        exact ⟨_, rfl⟩
    | @present d _ hd =>
      simp only [List.mem_cons, List.not_mem_nil, or_false] at hd
      rcases hd with rfl | rfl
      · rw [exponent?.eq_def]
        simp only [if_pos hc, hread]
        exact ⟨_, rfl⟩
      · rw [exponent?.eq_def]
        simp only [if_pos hc, hread]
        exact ⟨_, rfl⟩

theorem numeral_of_token? {token : Token} (h : token? t = some (token, r)) : Numeral t r := by
  -- behind the sign the parts follow each other
  have hparts : ∀ {t₁ : Glyphs} {negative : Bool}, ((digits? t₁).bind fun whole =>
      if whole.1.head? = some '0' ∧ whole.1.length ≠ 1 then none
      else (fraction? whole.2).bind fun fraction => (exponent? fraction.2).bind fun exponent =>
        some ((⟨negative, whole.1, fraction.1, exponent.1⟩ : Token), exponent.2)) = some (token, r) →
      ∃ t₂ t₃, Whole t₁ t₂ ∧ Fraction t₂ t₃ ∧ Exponent t₃ r := by
    intro t₁ negative h
    obtain ⟨⟨whole, t₂⟩, hwhole, h⟩ := Option.bind_eq_some_iff.1 h
    obtain ⟨hne, hdigits, heq⟩ := digits?_eq_some hwhole
    split at h
    · cases h
    · next hzero =>
      obtain ⟨⟨fraction, t₃⟩, hfraction, h⟩ := Option.bind_eq_some_iff.1 h
      obtain ⟨⟨exponent, t₄⟩, hexponent, h⟩ := Option.bind_eq_some_iff.1 h
      cases h
      refine ⟨t₂, t₃, ⟨whole, hne, hdigits, ?_, heq⟩, fraction_of_fraction? hfraction, exponent_of_exponent? hexponent⟩
      intro hhead
      exact Decidable.byContradiction fun hlength => hzero ⟨hhead, hlength⟩
  unfold token? at h
  dsimp only at h
  split at h
  · obtain ⟨t₂, t₃, whole, fraction, exponent⟩ := hparts h
    exact .parts (.present (List.mem_singleton.2 rfl)) whole fraction exponent
  · obtain ⟨t₂, t₃, whole, fraction, exponent⟩ := hparts h
    exact .parts (.absent _) whole fraction exponent

theorem Grammar.Numeral.exists_token? (h : Numeral t r)
    (hr : Begins EndsNumeral r) : ∃ token, token? t = some (token, r) := by
  cases h with
  | @parts t₁ t₂ t₃ _ sign whole fraction exponent =>
    obtain ⟨digits, hne, hdigits, hzero, rfl⟩ := whole
    -- what follows a part does not continue it
    have h₃ : Begins (fun c => isDigit c = false ∧ c ≠ '.') t₃ := by
      cases exponent with
      | absent => exact fun c t hc => ⟨(hr c t hc).1, (hr c t hc).2.1⟩
      | present hc _ _ =>
        intro c t heq
        cases heq
        rcases hc with rfl | rfl <;> decide
    have h₂ : Begins (isDigit · = false) t₂ := by
      cases fraction with
      | absent => exact fun c t hc => (h₃ c t hc).1
      | present _ =>
        intro c t heq
        cases heq
        decide
    have hwhole := digits?_of_digits hne hdigits h₂
    obtain ⟨fractionPart, hfraction⟩ := fraction.exists_fraction? h₃
    obtain ⟨exponentPart, hexponent⟩ := exponent.exists_exponent? fun c t hc =>
      ⟨(hr c t hc).1, (hr c t hc).2.2⟩
    have hkept : ¬(digits.head? = some '0' ∧ digits.length ≠ 1) := fun h => h.2 (hzero h.1)
    cases sign with
    | absent =>
      obtain ⟨d, rest, heq, hd⟩ := exists_eq_cons_of_digits hne hdigits t₂
      have hminus : d ≠ '-' := by rintro rfl; exact absurd hd (by decide)
      refine ⟨⟨false, digits, fractionPart, exponentPart⟩, ?_⟩
      unfold token?
      dsimp only
      split
      · next hsign =>
        cases heq.symm.trans hsign
        exact absurd rfl hminus
      · simp [hwhole, hkept, hfraction, hexponent]
    | present hsign =>
      obtain rfl := List.mem_singleton.1 hsign
      refine ⟨⟨true, digits, fractionPart, exponentPart⟩, ?_⟩
      unfold token?
      simp [hwhole, hkept, hfraction, hexponent]

theorem Grammar.Numeral.begins (h : Numeral t r) : ∃ c rest, t = some c :: rest ∧ (c = '-' ∨ isDigit c = true) := by
  cases h with
  | parts sign whole fraction exponent =>
    cases sign with
    | absent =>
      obtain ⟨digits, hne, hdigits, -, rfl⟩ := whole
      obtain ⟨d, rest, heq, hd⟩ := exists_eq_cons_of_digits hne hdigits _
      exact ⟨d, rest, heq, .inr hd⟩
    | present hsign => exact ⟨_, _, rfl, .inl (List.mem_singleton.1 hsign)⟩

theorem Grammar.Numeral.length_lt (h : Numeral t r) : r.length < t.length := by
  have hdigits : ∀ {digits : List Char} {t r : Glyphs},
      digits ≠ [] → t = digits.map some ++ r → r.length < t.length := by
    rintro digits _ r hne rfl
    have hpos := List.length_pos_iff.2 hne
    rw [List.length_append, List.length_map]
    omega
  have hsign : ∀ {signs : List Char} {t r : Glyphs}, Sign signs t r → r.length ≤ t.length := by
    intro signs t r h
    cases h with
    | absent => exact Nat.le_refl _
    | present _ => exact Nat.le_succ _
  cases h with
  | @parts t₁ t₂ t₃ _ sign whole fraction exponent =>
    have h₁ := hsign sign
    obtain ⟨digits, hne, -, -, heq⟩ := whole
    have h₂ := hdigits hne heq
    have h₃ : t₃.length ≤ t₂.length := by
      cases fraction with
      | absent => exact Nat.le_refl _
      | present h =>
        obtain ⟨digits, hne, -, heq⟩ := h
        exact Nat.le_succ_of_le (Nat.le_of_lt (hdigits hne heq))
    have h₄ : r.length ≤ t₃.length := by
      cases exponent with
      | absent => exact Nat.le_refl _
      | present _ sign h =>
        obtain ⟨digits, hne, -, heq⟩ := h
        have h₅ := hdigits hne heq
        have h₆ := hsign sign
        simp only [List.length_cons]
        omega
    omega

end MailReconciler.Json
