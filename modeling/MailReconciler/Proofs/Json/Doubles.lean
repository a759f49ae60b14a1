/-
Doubles: one that is given back by the text of its own is read back wherever it stands, since no numeral goes on with
what may stand behind a value.
-/
import MailReconciler.Proofs.Json.Writing

namespace MailReconciler.Json

open Text (Glyphs)
open Decimal (isDigit)
open Grammar

variable {t r tail : Glyphs}

/-! ## Numerals in front of other texts -/

theorem takeDigits_append_tail (htail : Begins (isDigit · = false) tail) :
    takeDigits (t ++ tail) = ((takeDigits t).1, (takeDigits t).2 ++ tail) := by
  fun_induction takeDigits t with
  | case1 c rest hc digits rest' heq ih =>
    rw [List.cons_append, takeDigits, if_pos hc, ih, heq]
  | case2 c rest hc => rw [List.cons_append, takeDigits, if_neg hc]
  | case3 t h =>
    cases t with
    | nil => exact @takeDigits_of_digits tail [] (fun c hc => by cases hc) htail
    | cons g rest =>
      cases g with
      | none => rfl
      | some c => exact absurd rfl (h c rest)

theorem digits?_append_tail {digits : List Char} (h : digits? t = some (digits, r))
    (htail : Begins (isDigit · = false) tail) : digits? (t ++ tail) = some (digits, r ++ tail) := by
  unfold digits? at h ⊢
  rw [takeDigits_append_tail htail]
  dsimp only at h ⊢
  split at h
  · cases h
  · next hne =>
    cases h
    rw [if_neg hne]

theorem fraction?_append_tail {part : Option (List Char)} (h : fraction? t = some (part, r))
    (htail : Begins EndsNumeral tail) : fraction? (t ++ tail) = some (part, r ++ tail) := by
  unfold fraction? at h
  split at h
  · next rest =>
    obtain ⟨⟨digits, r'⟩, hdigits, heq⟩ := Option.map_eq_some_iff.1 h
    cases heq
    rw [List.cons_append, fraction?, digits?_append_tail hdigits fun c t hc => (htail c t hc).1]
    rfl
  · next hpoint =>
    cases h
    unfold fraction?
    split
    · next rest heq =>
      cases t with
      | nil => exact absurd rfl (htail _ _ heq).2.1
      | cons g t =>
        cases heq
        exact absurd rfl (hpoint t)
    · rfl

theorem exponent?_append_tail {part : Option (Bool × List Char)} (h : exponent? t = some (part, r))
    (htail : Begins EndsNumeral tail) : exponent? (t ++ tail) = some (part, r ++ tail) := by
  have hdigit : Begins (isDigit · = false) tail := fun c t hc => (htail c t hc).1
  unfold exponent? at h
  split at h
  · next c rest =>
    split at h
    · next hc =>
      obtain ⟨⟨digits, r'⟩, hdigits, heq⟩ := Option.map_eq_some_iff.1 h
      cases heq
      split at hdigits
      · rw [List.cons_append, List.cons_append, exponent?.eq_def]
        simp only [if_pos hc, digits?_append_tail hdigits hdigit]
        rfl
      · rw [List.cons_append, List.cons_append, exponent?.eq_def]
        simp only [if_pos hc, digits?_append_tail hdigits hdigit]
        rfl
      · next hminus hplus =>
        have hread := digits?_append_tail hdigits hdigit
        cases rest with
        | nil => cases hdigits
        | cons g rest =>
          rw [List.cons_append, exponent?.eq_def]
          simp only [if_pos hc]
          split
          · next heq =>
            cases heq
            exact absurd rfl (hminus rest)
          · next heq =>
            cases heq
            exact absurd rfl (hplus rest)
          · rw [hread]
            rfl
    · next hc =>
      cases h
      rw [List.cons_append, exponent?.eq_def]
      simp only [if_neg hc]
  · next hsome =>
    cases h
    cases t with
    | nil =>
      unfold exponent?
      rw [List.nil_append]
      split
      · next c rest => rw [if_neg fun h => h.elim (htail c rest rfl).2.2.1 (htail c rest rfl).2.2.2]
      · rfl
    | cons g t =>
      cases g with
      | none => rfl
      | some c => exact absurd rfl (hsome c t)

/-- The number behind its sign. -/
def unsigned? (negative : Bool) (t : Glyphs) : Option (Token × Glyphs) :=
  (digits? t).bind fun whole =>
    if whole.1.head? = some '0' ∧ whole.1.length ≠ 1 then none
    else (fraction? whole.2).bind fun fraction => (exponent? fraction.2).bind fun exponent =>
      some (⟨negative, whole.1, fraction.1, exponent.1⟩, exponent.2)

theorem unsigned?_append_tail {negative : Bool} {token : Token} (h : unsigned? negative t = some (token, r))
    (htail : Begins EndsNumeral tail) : unsigned? negative (t ++ tail) = some (token, r ++ tail) := by
  unfold unsigned? at h ⊢
  obtain ⟨⟨whole, t₂⟩, hwhole, h⟩ := Option.bind_eq_some_iff.1 h
  rw [digits?_append_tail hwhole fun c t hc => (htail c t hc).1, Option.bind_some]
  dsimp only at h ⊢
  split at h
  · cases h
  · next hkept =>
    obtain ⟨⟨fraction, t₃⟩, hfraction, h⟩ := Option.bind_eq_some_iff.1 h
    obtain ⟨⟨exponent, t₄⟩, hexponent, h⟩ := Option.bind_eq_some_iff.1 h
    cases h
    rw [if_neg hkept, fraction?_append_tail hfraction htail, Option.bind_some,
      exponent?_append_tail hexponent htail, Option.bind_some]

/-- The number at the front of a text is the same in front of what does not go on with it. -/
theorem token?_append_tail {token : Token} (h : token? t = some (token, r)) (htail : Begins EndsNumeral tail) :
    token? (t ++ tail) = some (token, r ++ tail) := by
  unfold token? at h
  dsimp only at h
  split at h
  · next rest => exact @unsigned?_append_tail rest r tail true token h htail
  · next hminus =>
    have hread : unsigned? false (t ++ tail) = some (token, r ++ tail) := unsigned?_append_tail h htail
    cases t with
    | nil => cases h
    | cons g t =>
      unfold token?
      dsimp only
      split
      · next heq =>
        cases heq
        exact absurd rfl (hminus t)
      · exact hread

theorem Grammar.Numeral.suffix (h : Numeral t r) : r <:+ t := by
  have hsign : ∀ {signs : List Char} {t r : Glyphs}, Sign signs t r → r <:+ t := by
    intro signs t r h
    cases h with
    | absent => exact List.suffix_refl t
    | present _ => exact List.suffix_cons _ _
  cases h with
  | @parts t₁ t₂ t₃ _ sign whole fraction exponent =>
    obtain ⟨digits, -, -, -, hwhole⟩ := whole
    have h₃ : t₃ <:+ t₂ := by
      cases fraction with
      | absent => exact List.suffix_refl _
      | present h =>
        obtain ⟨digits, -, -, heq⟩ := h
        exact (heq ▸ List.suffix_append _ _).trans (List.suffix_cons _ _)
    have h₄ : r <:+ t₃ := by
      cases exponent with
      | absent => exact List.suffix_refl _
      | present _ sign h =>
        obtain ⟨digits, -, -, heq⟩ := h
        exact ((heq ▸ List.suffix_append _ _).trans (hsign sign)).trans (List.suffix_cons _ _)
    exact ((h₄.trans h₃).trans (hwhole ▸ List.suffix_append _ _)).trans (hsign sign)

/-! ## Characters -/

/-- A text of digits, points, signs and marks of exponents. -/
abbrev Numeric (text : String) : Prop := ∀ c ∈ text.toList, isDigit c = true ∨ c ∈ ['.', 'e', '-', '+']

theorem numeric_of_all {text : String}
    (h : (text.toList.all fun c => isDigit c = true ∨ c ∈ ['.', 'e', '-', '+']) = true) : Numeric text :=
  fun c hc => of_decide_eq_true (List.all_eq_true.1 h c hc)

theorem Numeric.append {a b : String} (ha : Numeric a) (hb : Numeric b) : Numeric (a ++ b) := by
  intro c hc
  rw [String.toList_append] at hc
  rcases List.mem_append.1 hc with hc | hc
  · exact ha c hc
  · exact hb c hc

theorem numeric_ofList {l : List Char} {text : String} (h : Numeric text) (hsub : l ⊆ text.toList) :
    Numeric (String.ofList l) := by
  intro c hc
  rw [String.toList_ofList] at hc
  exact h c (hsub hc)

theorem numeric_toString (n : Nat) : Numeric (toString n) := by
  intro c hc
  rw [Nat.toString_eq_repr, Nat.toList_repr] at hc
  exact .inl (isDigit_of_mem_toDigits hc)

theorem numeric_zeros (n : Nat) : Numeric (Decimal.zeros n) := by
  intro c hc
  rw [Decimal.zeros, String.toList_ofList] at hc
  rw [List.eq_of_mem_replicate hc]
  exact .inl (by decide)

theorem numeric_positional (keepPoint : Bool) (d : Decimal.Digits) : Numeric (Decimal.positional keepPoint d) := by
  have hpoint : Numeric "." := numeric_of_all (by decide)
  unfold Decimal.positional
  dsimp only
  split
  · refine ((numeric_toString _).append (numeric_zeros _)).append ?_
    cases keepPoint <;> exact numeric_of_all (by decide)
  · have hpadded :=
      (numeric_zeros ((-d.power).toNat + 1 - (toString d.digits).length)).append (numeric_toString d.digits)
    exact ((numeric_ofList hpadded (List.take_subset _ _)).append hpoint).append
      (numeric_ofList hpadded (List.drop_subset _ _))

theorem numeric_scientific (plus : Bool) (d : Decimal.Digits) : Numeric (Decimal.scientific plus d) := by
  have hpoint : Numeric "." := numeric_of_all (by decide)
  have hmark : Numeric "e" := numeric_of_all (by decide)
  have hdigits := numeric_toString d.digits
  have hone : ∀ c ∈ (toString d.digits).toList, Numeric (String.singleton c) := by
    intro c hc e he
    rw [String.toList_singleton, List.mem_singleton] at he
    rw [he]
    exact hdigits c hc
  unfold Decimal.scientific
  refine ((Numeric.append ?_ hmark).append ?_).append (numeric_toString _)
  · split
    · exact numeric_of_all (by decide)
    · next c hc => exact hone c (by rw [hc]; exact List.mem_cons_self)
    · next c rest _ hc =>
      have hsub : rest ⊆ (toString d.digits).toList := hc ▸ List.subset_cons_self c rest
      have hrest := numeric_ofList hdigits hsub
      exact ((hone c (by rw [hc]; exact List.mem_cons_self)).append hpoint).append hrest
  · split
    · exact numeric_of_all (by decide)
    · cases plus <;> exact numeric_of_all (by decide)

theorem numeric_digits (l : Decimal.Layout) (d : Decimal.Digits) : Numeric (l.digits d) := by
  unfold Decimal.Layout.digits
  dsimp only
  generalize (if d.digits = 0 then (1 : Int) else d.power + Decimal.digitCount d.digits) = places
  split
  · exact numeric_positional l.keepPoint d
  · exact numeric_scientific l.plus d

theorem numeric_render {x : Float} {b : Decimal.Binary} (h : Decimal.Content.ofFloat x = .finite b) :
    Numeric (Decimal.json.render x) := by
  have hsign : Numeric (if b.negative then "-" else "") := by
    cases b.negative <;> exact numeric_of_all (by decide)
  unfold Decimal.Layout.render
  simp only [h]
  exact hsign.append (numeric_digits Decimal.json b.shortest)

/-! ## Values -/

/-- A double that the text of its own gives back. -/
def Reproduced (x : Float) : Prop := parse? (ofFloat x).render = some (.number (.double x))

theorem Reproduced.ofFloat_eq {x : Float} (h : Reproduced x) : ofFloat x = .number (.double x) := by
  unfold ofFloat
  split
  · rfl
  · next hfinite =>
    unfold Reproduced ofFloat at h
    rw [if_neg hfinite, (parse?_render Plain.null).1] at h
    cases h

theorem Numeric.begins {text : String} (htext : Numeric text) {rest : Glyphs} {c : Char}
    (h : text.toList.map some = some c :: rest) : isDigit c = true ∨ c ∈ ['.', 'e', '-', '+'] := by
  have hmem : some c ∈ text.toList.map some := by
    rw [h]
    exact List.mem_cons_self
  obtain ⟨d, hd, heq⟩ := List.mem_map.1 hmem
  cases heq
  exact htext c hd

theorem skipBlanks_of_numeric {text : String} (htext : Numeric text) (hsuffix : r <:+ text.toList.map some) :
    skipBlanks r = r := by
  cases r with
  | nil => rfl
  | cons g rest =>
    obtain ⟨c, hc, rfl⟩ := List.mem_map.1 (hsuffix.subset List.mem_cons_self)
    refine skipBlanks_of_not_blank ?_ rest
    rintro (rfl | rfl | rfl | rfl) <;> exact absurd (htext _ hc) (by decide)

/-- No other value begins as a number does. -/
theorem numeral_of_numeric {text : String} (htext : Numeric text) (h : Derives .value (text.toList.map some) r) :
    Numeral (text.toList.map some) r := by
  generalize htext' : text.toList.map some = t at h ⊢
  cases h with
  | @word w hw =>
    simp only [List.mem_cons, List.not_mem_nil, or_false] at hw
    rcases hw with rfl | rfl | rfl <;> exact absurd (htext.begins htext') (by decide)
  | numeral h => exact h
  | string _ => exact absurd (htext.begins htext') (by decide)
  | emptyArray _ => exact absurd (htext.begins htext') (by decide)
  | array _ => exact absurd (htext.begins htext') (by decide)
  | emptyObject _ => exact absurd (htext.begins htext') (by decide)
  | object _ => exact absurd (htext.begins htext') (by decide)

/-- A number that is read from digits, points, signs and marks of exponents takes the whole text. -/
theorem exists_token_of_numeric {text : String} (htext : Numeric text) {n : Number}
    (h : parse? text = some (.number n)) :
    ∃ token, token? (text.toList.map some) = some (token, []) ∧ token.value? = some n := by
  unfold parse? read? Text.glyphs at h
  split at h
  · next j r hvalue =>
    split at h
    · next hempty =>
      cases h
      obtain ⟨t, hblanks, hderives⟩ := derives_of_value? _ hvalue
      have hfront : text.toList.map some = t := by
        obtain ⟨c, rest, rfl, hc, -⟩ := hderives.value_begins
        rw [← skipBlanks_of_numeric htext (List.suffix_refl _), hblanks.skipBlanks_eq, skipBlanks_of_not_blank hc]
      subst hfront
      have hnumeral := numeral_of_numeric htext hderives
      obtain ⟨c, rest, hbegin, hc⟩ := hnumeral.begins
      rw [hbegin, value?_of_numeral_start hc, ← hbegin] at hvalue
      obtain ⟨⟨token, r'⟩, htoken, heq⟩ := Option.map_eq_some_iff.1 hvalue
      obtain ⟨hnumber, rfl⟩ := Prod.mk.inj heq
      rw [skipBlanks_of_numeric htext hnumeral.suffix] at hempty
      obtain rfl := List.isEmpty_iff.1 hempty
      refine ⟨token, htoken, ?_⟩
      cases htokenValue : token.value? with
      | none =>
        rw [htokenValue] at hnumber
        cases hnumber
      | some m =>
        rw [htokenValue] at hnumber
        cases hnumber
        rfl
    · cases h
  · cases h

/-- A double that is reproduced on its own is read back whatever follows it. -/
theorem Reproduced.readBack {x : Float} (h : Reproduced x) : ReadBack (ofFloat x) := by
  have hwrite : ∀ tail, (ofFloat x).write tail = (Number.double x).render.toList ++ tail := fun tail => by
    rw [h.ofFloat_eq, write]
  have hrender : (ofFloat x).render = (Number.double x).render := by
    rw [render, hwrite, List.append_nil, String.ofList_toList]
  have hread : parse? (Number.double x).render = some (.number (.double x)) := hrender ▸ h
  have hnumeric : Numeric (Number.double x).render := by
    have hnull : parse? "null" = some .null := rfl
    cases hcontent : Decimal.Content.ofFloat x with
    | finite b =>
      simp only [Number.render, hcontent]
      exact numeric_render hcontent
    | _ =>
      simp only [Number.render, hcontent, hnull] at hread
      cases hread
  obtain ⟨token, htoken, hvalue⟩ := exists_token_of_numeric hnumeric hread
  refine readBack_word (Number.double x).render.toList ?_ hwrite fun fuel t ht => ?_
  · intro hnil
    rw [hnil] at htoken
    cases htoken
  · obtain ⟨c, rest, hbegin, hc⟩ := (numeral_of_token? htoken).begins
    have happend := token?_append_tail htoken ht
    rw [hbegin] at happend ⊢
    rw [List.cons_append, value?_of_numeral_start hc, ← List.cons_append, happend, Option.map_some, hvalue,
      h.ofFloat_eq]
    rfl

end MailReconciler.Json
