/-
Values. What the reader takes for a value is one of the grammar, and it reads every text that is a value between
blanks: its fuel is the length of the text, of which every phrase uses up some.
-/
import MailReconciler.Proofs.Json.Numerals
import MailReconciler.Proofs.Json.Strings

namespace MailReconciler.Json

open Text (Glyphs)
open Decimal (isDigit)
open Grammar

variable {t r : Glyphs} {c : Char}

/-! ## Soundness -/

theorem Grammar.Blanks.trans {t₁ : Glyphs} (h : Blanks t t₁) (h₁ : Blanks t₁ r) : Blanks t r := by
  induction h with
  | done t => exact h₁
  | more hc _ ih => exact .more hc (ih h₁)

theorem Grammar.Derives.items_of_blanks {t₁ : Glyphs} (h : Blanks t t₁) (h₁ : Derives .items t₁ r) :
    Derives .items t r := by
  cases h₁ with
  | lastItem before value after => exact .lastItem (h.trans before) value after
  | item before value after rest => exact .item (h.trans before) value after rest

theorem Grammar.Derives.members_of_blanks {t₁ : Glyphs} (h : Blanks t t₁) (h₁ : Derives .members t₁ r) :
    Derives .members t r := by
  cases h₁ with
  | lastMember before name colon behind value after => exact .lastMember (h.trans before) name colon behind value after
  | member before name colon behind value after rest =>
    exact .member (h.trans before) name colon behind value after rest

theorem Grammar.Derives.of_expect? {w : List Char}
    (hw : c :: w ∈ [['t', 'r', 'u', 'e'], ['f', 'a', 'l', 's', 'e'], ['n', 'u', 'l', 'l']]) (h : expect? w t = some r) :
    Derives .value (some c :: t) r := by
  rw [expect?_eq_some_iff.1 h]
  exact .word hw r

mutual

/-- What is read as a value is one, behind some blanks. -/
theorem derives_of_value? : ∀ (fuel : Nat) {t r : Glyphs} {j : Json}, value? fuel t = some (j, r) →
    ∃ t₁, Blanks t t₁ ∧ Derives .value t₁ r
  | 0, _, _, _, h => by cases h
  | fuel + 1, t, r, j, h => by
    refine ⟨skipBlanks t, blanks_skipBlanks t, ?_⟩
    unfold value? at h
    split at h
    · next rest heq =>
      obtain ⟨⟨s, r'⟩, hstring, hr⟩ := Option.map_eq_some_iff.1 h
      cases hr
      rw [heq]
      exact .string (characters_of_string? fuel hstring)
    · next rest heq =>
      rw [heq]
      split at h
      · next rest' hclose =>
        cases h
        exact .emptyArray (hclose ▸ blanks_skipBlanks rest)
      · obtain ⟨⟨items, r'⟩, hitems, hr⟩ := Option.map_eq_some_iff.1 h
        cases hr
        exact .array (.items_of_blanks (blanks_skipBlanks rest) (derives_of_items? fuel hitems))
    · next rest heq =>
      rw [heq]
      split at h
      · next rest' hclose =>
        cases h
        exact .emptyObject (hclose ▸ blanks_skipBlanks rest)
      · obtain ⟨⟨members, r'⟩, hmembers, hr⟩ := Option.map_eq_some_iff.1 h
        cases hr
        exact .object (.members_of_blanks (blanks_skipBlanks rest) (derives_of_members? fuel hmembers))
    · next rest heq =>
      obtain ⟨r', hword, hr⟩ := Option.map_eq_some_iff.1 h
      cases hr
      rw [heq]
      exact .of_expect? (by simp) hword
    · next rest heq =>
      obtain ⟨r', hword, hr⟩ := Option.map_eq_some_iff.1 h
      cases hr
      rw [heq]
      exact .of_expect? (by simp) hword
    · next rest heq =>
      obtain ⟨r', hword, hr⟩ := Option.map_eq_some_iff.1 h
      cases hr
      rw [heq]
      exact .of_expect? (by simp) hword
    · obtain ⟨⟨token, r'⟩, htoken, hr⟩ := Option.map_eq_some_iff.1 h
      cases hr
      exact .numeral (numeral_of_token? htoken)

/-- What is read as items are some, with the closing bracket. -/
theorem derives_of_items? : ∀ (fuel : Nat) {t r : Glyphs} {items : List Json}, items? fuel t = some (items, r) →
    Derives .items t r
  | 0, _, _, _, h => by cases h
  | fuel + 1, t, r, items, h => by
    unfold items? at h
    split at h
    · cases h
    · next item rest hitem =>
      obtain ⟨t₁, before, value⟩ := derives_of_value? fuel hitem
      split at h
      · next rest' hcomma =>
        obtain ⟨⟨items, r'⟩, hitems, hr⟩ := Option.map_eq_some_iff.1 h
        cases hr
        exact .item before value (hcomma ▸ blanks_skipBlanks rest) (derives_of_items? fuel hitems)
      · next rest' hclose =>
        cases h
        exact .lastItem before value (hclose ▸ blanks_skipBlanks rest)
      · cases h

/-- What is read as members are some, with the closing brace. -/
theorem derives_of_members? : ∀ (fuel : Nat) {t r : Glyphs} {members : List (Option String × Json)},
    members? fuel t = some (members, r) → Derives .members t r
  | 0, _, _, _, h => by cases h
  | fuel + 1, t, r, members, h => by
    unfold members? at h
    split at h
    · next rest hopen =>
      have before := blanks_skipBlanks t
      rw [hopen] at before
      split at h
      · cases h
      · next name rest₁ hname =>
        split at h
        · next rest₂ hcolon =>
          split at h
          · cases h
          · next value rest₃ hvalue =>
            obtain ⟨t₁, behind, value⟩ := derives_of_value? fuel hvalue
            have hname := characters_of_string? fuel hname
            have colon := blanks_skipBlanks rest₁
            rw [hcolon] at colon
            split at h
            · next rest₄ hcomma =>
              obtain ⟨⟨members, r'⟩, hmembers, hr⟩ := Option.map_eq_some_iff.1 h
              cases hr
              exact .member before hname colon behind value (hcomma ▸ blanks_skipBlanks rest₃)
                (derives_of_members? fuel hmembers)
            · next rest₄ hclose =>
              cases h
              exact .lastMember before hname colon behind value (hclose ▸ blanks_skipBlanks rest₃)
            · cases h
        · cases h
    · cases h

end

/-! ## Completeness -/

theorem Grammar.Derives.length_lt {k : Category} (h : Derives k t r) : r.length < t.length := by
  induction h with
  | @word w hw t =>
    have hpos : 0 < w.length := by
      simp only [List.mem_cons, List.not_mem_nil, or_false] at hw
      rcases hw with rfl | rfl | rfl <;> decide
    rw [List.length_append, List.length_map]
    omega
  | numeral h => exact h.length_lt
  | string h => exact Nat.lt_succ_of_lt h.length_lt
  | emptyArray h | emptyObject h => exact Nat.lt_succ_of_lt h.length_lt
  | array _ ih | object _ ih => exact Nat.lt_succ_of_lt ih
  | lastItem before _ after ih | item before _ after _ ih _ =>
    have h₁ := before.length_le
    have h₂ := after.length_lt
    omega
  | lastMember before name colon behind _ after ih | member before name colon behind _ after _ ih _ =>
    have h₁ := before.length_lt
    have h₂ := name.length_lt
    have h₃ := colon.length_lt
    have h₄ := behind.length_le
    have h₅ := after.length_lt
    omega

theorem Grammar.Blanks.value?_eq (h : Blanks t r) (fuel : Nat) : value? fuel t = value? fuel r := by
  cases fuel with
  | zero => rfl
  | succ fuel =>
    unfold value?
    rw [h.skipBlanks_eq]

theorem Grammar.Blanks.skipBlanks_eq_cons (h : Blanks t (some c :: r))
    (hc : ¬IsBlank c) : skipBlanks t = some c :: r :=
  h.skipBlanks_eq.trans (skipBlanks_of_not_blank hc r)

theorem items?_skipBlanks (fuel : Nat) (t : Glyphs) : items? fuel (skipBlanks t) = items? fuel t := by
  cases fuel with
  | zero => rfl
  | succ fuel =>
    unfold items?
    rw [(blanks_skipBlanks t).value?_eq]

theorem members?_skipBlanks (fuel : Nat) (t : Glyphs) : members? fuel (skipBlanks t) = members? fuel t := by
  cases fuel with
  | zero => rfl
  | succ fuel =>
    unfold members?
    rw [← (blanks_skipBlanks t).skipBlanks_eq]

/-- Where a numeral begins, no blank and nothing else that a value can begin with stands. -/
theorem value?_of_numeral_start (hc : c = '-' ∨ isDigit c = true) (fuel : Nat) (t : Glyphs) :
    value? (fuel + 1) (some c :: t) = (token? (some c :: t)).map fun p =>
      ((p.1.value?.map Json.number).getD .unreadable, p.2) := by
  have hother : ∀ d : Char, d ≠ '-' → isDigit d = false → c ≠ d := by
    rintro d hd hdigit rfl
    rcases hc with rfl | hc
    · exact hd rfl
    · rw [hdigit] at hc
      cases hc
  have hblank : ¬IsBlank c := by
    rintro (h | h | h | h)
    · exact hother _ (by decide) (by decide) h
    · exact hother _ (by decide) (by decide) h
    · exact hother _ (by decide) (by decide) h
    · exact hother _ (by decide) (by decide) h
  rw [value?.eq_def]
  simp only [skipBlanks_of_not_blank hblank]
  split
  · next heq => cases heq; exact absurd rfl (hother _ (by decide) (by decide))
  · next heq => cases heq; exact absurd rfl (hother _ (by decide) (by decide))
  · next heq => cases heq; exact absurd rfl (hother _ (by decide) (by decide))
  · next heq => cases heq; exact absurd rfl (hother _ (by decide) (by decide))
  · next heq => cases heq; exact absurd rfl (hother _ (by decide) (by decide))
  · next heq => cases heq; exact absurd rfl (hother _ (by decide) (by decide))
  · rfl

/-- A value begins neither with a blank nor with the end of an array. -/
theorem Grammar.Derives.value_begins (h : Derives .value t r) : ∃ c rest, t = some c :: rest ∧
    ¬IsBlank c ∧ c ≠ ']' := by
  cases h with
  | @word w hw =>
    simp only [List.mem_cons, List.not_mem_nil, or_false] at hw
    rcases hw with rfl | rfl | rfl
    · exact ⟨'t', _, rfl, by decide, by decide⟩
    · exact ⟨'f', _, rfl, by decide, by decide⟩
    · exact ⟨'n', _, rfl, by decide, by decide⟩
  | numeral h =>
    obtain ⟨c, rest, rfl, hc⟩ := h.begins
    refine ⟨c, rest, rfl, ?_, ?_⟩
    · rintro (rfl | rfl | rfl | rfl) <;> exact absurd hc (by decide)
    · rintro rfl
      exact absurd hc (by decide)
  | string _ => exact ⟨_, _, rfl, by decide, by decide⟩
  | emptyArray _ => exact ⟨_, _, rfl, by decide, by decide⟩
  | array _ => exact ⟨_, _, rfl, by decide, by decide⟩
  | emptyObject _ => exact ⟨_, _, rfl, by decide, by decide⟩
  | object _ => exact ⟨_, _, rfl, by decide, by decide⟩

theorem Grammar.Derives.items_begin (h : Derives .items t r) : ∃ c rest, skipBlanks t = some c :: rest ∧ c ≠ ']' := by
  have hfirst : ∀ {t t₁ t₂ : Glyphs}, Blanks t t₁ → Derives .value t₁ t₂ →
      ∃ c rest, skipBlanks t = some c :: rest ∧ c ≠ ']' := by
    intro t t₁ t₂ before value
    obtain ⟨c, rest, rfl, hblank, hc⟩ := value.value_begins
    exact ⟨c, rest, before.skipBlanks_eq_cons hblank, hc⟩
  cases h with
  | lastItem before value _ => exact hfirst before value
  | item before value _ _ => exact hfirst before value

theorem Grammar.Derives.members_begin (h : Derives .members t r) : ∃ rest, skipBlanks t = some '"' :: rest := by
  cases h with
  | lastMember before _ _ _ _ _ => exact ⟨_, before.skipBlanks_eq_cons (by decide)⟩
  | member before _ _ _ _ _ _ => exact ⟨_, before.skipBlanks_eq_cons (by decide)⟩

/-! ### Steps of the reader -/

theorem value?_array (fuel : Nat) (t : Glyphs) : value? (fuel + 1) (some '[' :: t) =
    match skipBlanks t with
    | some ']' :: rest => some (.array [], rest)
    | rest => (items? fuel rest).map fun p => (.array p.1, p.2) :=
  rfl

theorem value?_object (fuel : Nat) (t : Glyphs) : value? (fuel + 1) (some '{' :: t) =
    match skipBlanks t with
    | some '}' :: rest => some (.object [], rest)
    | rest => (members? fuel rest).map fun p => (ofMembers p.1, p.2) :=
  rfl

/-- What it is to read a phrase of each category with some fuel. -/
def Reads (fuel : Nat) (t r : Glyphs) : Category → Prop
  | .value => ∃ j, value? fuel t = some (j, r)
  | .items => ∃ items, items? fuel t = some (items, r)
  | .members => ∃ members, members? fuel t = some (members, r)

namespace Reads

variable {fuel : Nat} {t₁ t₂ t₃ t₄ t₅ t₆ : Glyphs}

theorem word {w : List Char} (hw : w ∈ [['t', 'r', 'u', 'e'], ['f', 'a', 'l', 's', 'e'], ['n', 'u', 'l', 'l']])
    (fuel : Nat) (t : Glyphs) : Reads (fuel + 1) (w.map some ++ t) t .value := by
  simp only [List.mem_cons, List.not_mem_nil, or_false] at hw
  rcases hw with rfl | rfl | rfl
  · exact ⟨.bool true, rfl⟩
  · exact ⟨.bool false, rfl⟩
  · exact ⟨.null, rfl⟩

theorem numeral (h : Numeral t r) (hr : Begins EndsNumeral r) (fuel : Nat) : Reads (fuel + 1) t r .value := by
  obtain ⟨token, htoken⟩ := h.exists_token? hr
  obtain ⟨c, rest, rfl, hc⟩ := h.begins
  exact ⟨_, by rw [value?_of_numeral_start hc, htoken]; rfl⟩

theorem string {s : Glyphs} (h : string? fuel t = some (s, r)) : Reads (fuel + 1) (some '"' :: t) r .value := by
  refine ⟨((textOf? s).map Json.string).getD .unreadable, ?_⟩
  show (string? fuel t).map _ = _
  rw [h]
  rfl

theorem emptyArray (h : Blanks t (some ']' :: r)) (fuel : Nat) : Reads (fuel + 1) (some '[' :: t) r .value := by
  refine ⟨.array [], ?_⟩
  rw [value?_array, h.skipBlanks_eq_cons (by decide)]
  rfl

theorem array {c : Char} {rest : Glyphs} (hbegin : skipBlanks t = some c :: rest) (hc : c ≠ ']')
    (h : Reads fuel t r .items) : Reads (fuel + 1) (some '[' :: t) r .value := by
  obtain ⟨items, hitems⟩ := h
  refine ⟨.array items, ?_⟩
  rw [value?_array]
  split
  · next hclose =>
    rw [hbegin] at hclose
    cases hclose
    exact absurd rfl hc
  · rw [items?_skipBlanks, hitems]
    rfl

theorem emptyObject (h : Blanks t (some '}' :: r)) (fuel : Nat) : Reads (fuel + 1) (some '{' :: t) r .value := by
  refine ⟨.object [], ?_⟩
  rw [value?_object, h.skipBlanks_eq_cons (by decide)]
  rfl

theorem object {rest : Glyphs} (hbegin : skipBlanks t = some '"' :: rest) (h : Reads fuel t r .members) :
    Reads (fuel + 1) (some '{' :: t) r .value := by
  obtain ⟨members, hmembers⟩ := h
  refine ⟨ofMembers members, ?_⟩
  rw [value?_object]
  split
  · next hclose =>
    rw [hbegin] at hclose
    cases hclose
  · rw [members?_skipBlanks, hmembers]
    rfl

theorem lastItem (before : Blanks t t₁) (value : Reads fuel t₁ t₂ .value) (after : Blanks t₂ (some ']' :: r)) :
    Reads (fuel + 1) t r .items := by
  obtain ⟨j, hj⟩ := value
  refine ⟨[j], ?_⟩
  rw [items?, before.value?_eq, hj]
  simp only [after.skipBlanks_eq_cons (show ¬IsBlank ']' by decide)]

theorem item (before : Blanks t t₁) (value : Reads fuel t₁ t₂ .value) (after : Blanks t₂ (some ',' :: t₃))
    (rest : Reads fuel t₃ r .items) : Reads (fuel + 1) t r .items := by
  obtain ⟨j, hj⟩ := value
  obtain ⟨items, hitems⟩ := rest
  refine ⟨j :: items, ?_⟩
  rw [items?, before.value?_eq, hj]
  simp only [after.skipBlanks_eq_cons (show ¬IsBlank ',' by decide), hitems, Option.map_some]

theorem lastMember {s : Glyphs} (before : Blanks t (some '"' :: t₁)) (name : string? fuel t₁ = some (s, t₂))
    (colon : Blanks t₂ (some ':' :: t₃)) (behind : Blanks t₃ t₄) (value : Reads fuel t₄ t₅ .value)
    (after : Blanks t₅ (some '}' :: r)) : Reads (fuel + 1) t r .members := by
  obtain ⟨j, hj⟩ := value
  refine ⟨[(textOf? s, j)], ?_⟩
  rw [members?, before.skipBlanks_eq_cons (by decide)]
  simp only [name, colon.skipBlanks_eq_cons (show ¬IsBlank ':' by decide), behind.value?_eq, hj,
    after.skipBlanks_eq_cons (show ¬IsBlank '}' by decide)]

theorem member {s : Glyphs} (before : Blanks t (some '"' :: t₁)) (name : string? fuel t₁ = some (s, t₂))
    (colon : Blanks t₂ (some ':' :: t₃)) (behind : Blanks t₃ t₄) (value : Reads fuel t₄ t₅ .value)
    (after : Blanks t₅ (some ',' :: t₆)) (rest : Reads fuel t₆ r .members) : Reads (fuel + 1) t r .members := by
  obtain ⟨j, hj⟩ := value
  obtain ⟨members, hmembers⟩ := rest
  refine ⟨(textOf? s, j) :: members, ?_⟩
  rw [members?, before.skipBlanks_eq_cons (by decide)]
  simp only [name, colon.skipBlanks_eq_cons (show ¬IsBlank ':' by decide), behind.value?_eq, hj,
    after.skipBlanks_eq_cons (show ¬IsBlank ',' by decide), hmembers, Option.map_some]

end Reads

/-- A phrase is read by fuel that suffices for its length. What is left behind a value must not continue it, as a digit
continues a numeral. -/
theorem Grammar.Derives.reads {k : Category} (h : Derives k t r) : (k = .value → Begins EndsNumeral r) →
    ∀ fuel, t.length ≤ fuel + r.length → Reads fuel t r k := by
  have hcomma : EndsNumeral ',' := by decide
  have hbracket : EndsNumeral ']' := by decide
  have hbrace : EndsNumeral '}' := by decide
  induction h with
  | word hw t => exact fun _ => forall_fuel_of_succ (Derives.word hw t).length_lt fun fuel _ => .word hw fuel t
  | numeral h => exact fun hr => forall_fuel_of_succ h.length_lt fun fuel _ => .numeral h (hr rfl) fuel
  | string h =>
    refine fun _ => forall_fuel_of_succ (Derives.string h).length_lt fun fuel hfuel => ?_
    simp only [List.length_cons] at hfuel
    obtain ⟨s, hs⟩ := h.exists_string? fuel (by omega)
    exact .string hs
  | emptyArray h => exact fun _ => forall_fuel_of_succ (Derives.emptyArray h).length_lt fun fuel _ => .emptyArray h fuel
  | array h ih =>
    refine fun _ => forall_fuel_of_succ (Derives.array h).length_lt fun fuel hfuel => ?_
    simp only [List.length_cons] at hfuel
    obtain ⟨c, rest, hbegin, hc⟩ := h.items_begin
    exact .array hbegin hc (ih (fun h => by cases h) fuel (by omega))
  | emptyObject h =>
    exact fun _ => forall_fuel_of_succ (Derives.emptyObject h).length_lt fun fuel _ => .emptyObject h fuel
  | object h ih =>
    refine fun _ => forall_fuel_of_succ (Derives.object h).length_lt fun fuel hfuel => ?_
    simp only [List.length_cons] at hfuel
    obtain ⟨rest, hbegin⟩ := h.members_begin
    exact .object hbegin (ih (fun h => by cases h) fuel (by omega))
  | @lastItem t t₁ t₂ r before value after ih =>
    refine fun _ => forall_fuel_of_succ (Derives.lastItem before value after).length_lt fun fuel hfuel => ?_
    have h₁ := before.length_le
    have h₂ := after.length_lt
    exact .lastItem before (ih (fun _ => after.begins (begins_cons hbracket r)) fuel (by omega)) after
  | @item t t₁ t₂ t₃ r before value after rest ih ih' =>
    refine fun _ => forall_fuel_of_succ (Derives.item before value after rest).length_lt fun fuel hfuel => ?_
    have h₁ := before.length_le
    have h₂ := value.length_lt
    have h₃ := after.length_lt
    have h₄ := rest.length_lt
    exact .item before (ih (fun _ => after.begins (begins_cons hcomma t₃)) fuel (by omega)) after
      (ih' (fun h => by cases h) fuel (by omega))
  | @lastMember t t₁ t₂ t₃ t₄ t₅ r before name colon behind value after ih =>
    refine fun _ => forall_fuel_of_succ (Derives.lastMember before name colon behind value after).length_lt
      fun fuel hfuel => ?_
    have h₁ := before.length_lt
    have h₂ := name.length_lt
    have h₃ := colon.length_lt
    have h₄ := behind.length_le
    have h₅ := value.length_lt
    have h₆ := after.length_lt
    obtain ⟨s, hs⟩ := name.exists_string? fuel (by omega)
    exact .lastMember before hs colon behind (ih (fun _ => after.begins (begins_cons hbrace r)) fuel (by omega)) after
  | @member t t₁ t₂ t₃ t₄ t₅ t₆ r before name colon behind value after rest ih ih' =>
    refine fun _ => forall_fuel_of_succ (Derives.member before name colon behind value after rest).length_lt
      fun fuel hfuel => ?_
    have h₁ := before.length_lt
    have h₂ := name.length_lt
    have h₃ := colon.length_lt
    have h₄ := behind.length_le
    have h₅ := value.length_lt
    have h₆ := after.length_lt
    have h₇ := rest.length_lt
    obtain ⟨s, hs⟩ := name.exists_string? fuel (by omega)
    exact .member before hs colon behind (ih (fun _ => after.begins (begins_cons hcomma t₆)) fuel (by omega)) after
      (ih' (fun h => by cases h) fuel (by omega))

/-- A text is read if and only if it is one value between blanks. -/
theorem isSome_read?_iff (text : Glyphs) : (read? text).isSome = true ↔ IsText text := by
  unfold read?
  constructor
  · intro h
    split at h
    · next j rest hj =>
      split at h
      · next hrest =>
        obtain ⟨t, before, value⟩ := derives_of_value? _ hj
        have after := blanks_skipBlanks rest
        rw [List.isEmpty_iff.1 hrest] at after
        exact ⟨t, rest, before, value, after⟩
      · cases h
    · cases h
  · rintro ⟨t, r, before, value, after⟩
    have hle := before.length_le
    have hends : Begins EndsNumeral r := after.begins (by intro c t h; cases h)
    obtain ⟨j, hj⟩ := value.reads (fun _ => hends) (text.length + 1) (by omega)
    rw [before.value?_eq, hj]
    simp [after.skipBlanks_eq, skipBlanks]

end MailReconciler.Json
