/-
Strings. The reader goes through a string as the grammar does, but for an escape that is the first half of a surrogate
pair: it takes the second half with it, if that is there, where the grammar takes one after the other.
-/
import MailReconciler.Proofs.Json.Grammar

namespace MailReconciler.Json

open Text (Glyphs)
open Grammar

variable {t r : Glyphs} {c : Char}

theorem hexFour?_eq_some {n : Nat} (h : hexFour? t = some (n, r)) : ∃ a b c d, IsHexDigit a ∧ IsHexDigit b ∧
    IsHexDigit c ∧ IsHexDigit d ∧ t = some a :: some b :: some c :: some d :: r := by
  unfold hexFour? at h
  split at h
  · next a b c d rest =>
    simp only [Option.bind_eq_bind, Option.bind_eq_some_iff] at h
    obtain ⟨na, ha, nb, hb, nc, hc, nd, hd, h⟩ := h
    cases h
    exact ⟨a, b, c, d, hexDigit?_isSome_iff.1 (Option.isSome_of_eq_some ha),
      hexDigit?_isSome_iff.1 (Option.isSome_of_eq_some hb), hexDigit?_isSome_iff.1 (Option.isSome_of_eq_some hc),
      hexDigit?_isSome_iff.1 (Option.isSome_of_eq_some hd), rfl⟩
  · cases h

theorem exists_hexFour? {a b c d : Char} (ha : IsHexDigit a) (hb : IsHexDigit b) (hc : IsHexDigit c)
    (hd : IsHexDigit d) (r : Glyphs) : ∃ n, hexFour? (some a :: some b :: some c :: some d :: r) = some (n, r) := by
  obtain ⟨na, ha⟩ := Option.isSome_iff_exists.1 (hexDigit?_isSome_iff.2 ha)
  obtain ⟨nb, hb⟩ := Option.isSome_iff_exists.1 (hexDigit?_isSome_iff.2 hb)
  obtain ⟨nc, hc⟩ := Option.isSome_iff_exists.1 (hexDigit?_isSome_iff.2 hc)
  obtain ⟨nd, hd⟩ := Option.isSome_iff_exists.1 (hexDigit?_isSome_iff.2 hd)
  refine ⟨((na * 16 + nb) * 16 + nc) * 16 + nd, ?_⟩
  simp [hexFour?, ha, hb, hc, hd]

theorem lowHalf?_eq_some {n : Nat} (h : lowHalf? t = some (n, r)) : 0xDC00 ≤ n ∧ n ≤ 0xDFFF ∧
    ∃ rest, t = some '\\' :: some 'u' :: rest ∧ hexFour? rest = some (n, r) := by
  unfold lowHalf? at h
  split at h
  · next rest =>
    split at h
    · next m rest' hfour =>
      split at h
      · next hm =>
        cases h
        exact ⟨hm.1, hm.2, rest, rfl, hfour⟩
      · cases h
    · cases h
  · cases h

theorem Grammar.Characters.of_hexFour? {n : Nat} {rest : Glyphs} (h : hexFour? rest = some (n, t))
    (ht : Characters t r) : Characters (some '\\' :: some 'u' :: rest) r := by
  obtain ⟨a, b, c, d, ha, hb, hc, hd, rfl⟩ := hexFour?_eq_some h
  exact .number ha hb hc hd ht

theorem characters_of_string? : ∀ (fuel : Nat) {t r s : Glyphs}, string? fuel t = some (s, r) → Characters t r := by
  intro fuel
  induction fuel with
  | zero =>
    intro t r s h
    cases h
  | succ fuel ih =>
    intro t r s h
    -- every way to go on leaves the rest of the string to less fuel
    have hgo : ∀ {g : Option Char} {rest : Glyphs},
        (string? fuel rest).map (fun p => (g :: p.1, p.2)) = some (s, r) → Characters rest r := by
      intro g rest hmap
      obtain ⟨⟨s', r'⟩, hrest, heq⟩ := Option.map_eq_some_iff.1 hmap
      cases heq
      exact ih hrest
    unfold string? at h
    cases t with
    | nil => cases h
    | cons g rest =>
      cases g with
      | none => exact .fault (hgo h)
      | some c =>
        dsimp only at h
        by_cases hquote : c = '"'
        · rw [if_pos hquote] at h
          cases h
          rw [hquote]
          exact .close _
        · rw [if_neg hquote] at h
          by_cases hslash : c = '\\'
          · rw [if_pos hslash] at h
            subst hslash
            split at h
            · next rest =>
              split at h
              · cases h
              · next n rest hfour =>
                split at h
                · split at h
                  · next low rest' hlow =>
                    obtain ⟨-, -, rest₁, rfl, hfour'⟩ := lowHalf?_eq_some hlow
                    exact .of_hexFour? hfour (.of_hexFour? hfour' (hgo h))
                  · exact .of_hexFour? hfour (hgo h)
                · split at h
                  · exact .of_hexFour? hfour (hgo h)
                  · exact .of_hexFour? hfour (hgo h)
            · next d rest _ =>
              split at h
              · next e he =>
                exact .letter (escaped?_isSome_iff.1 (Option.isSome_of_eq_some he)) (hgo h)
              · cases h
            · cases h
          · rw [if_neg hslash] at h
            by_cases hcontrol : c.toNat < 0x20
            · rw [if_pos hcontrol] at h
              cases h
            · rw [if_neg hcontrol] at h
              exact .plain hquote hslash (Nat.le_of_not_lt hcontrol) (hgo h)

theorem Grammar.Characters.length_lt (h : Characters t r) : r.length < t.length := by
  induction h with
  | close t => exact Nat.lt_succ_self _
  | fault _ ih | plain _ _ _ _ ih | letter _ _ ih | number _ _ _ _ _ ih =>
    simp only [List.length_cons]
    omega

/-! ### Steps through a string -/

theorem string?_plain (hquote : c ≠ '"') (hslash : c ≠ '\\') (hcontrol : 0x20 ≤ c.toNat) (fuel : Nat) (t : Glyphs) :
    string? (fuel + 1) (some c :: t) = (string? fuel t).map fun p => (some c :: p.1, p.2) := by
  rw [string?.eq_def]
  simp only [if_neg hquote, if_neg hslash, if_neg (Nat.not_lt.2 hcontrol)]

theorem string?_letter {e : Char} (he : escaped? c = some e) (fuel : Nat) (t : Glyphs) :
    string? (fuel + 1) (some '\\' :: some c :: t) = (string? fuel t).map fun p => (some e :: p.1, p.2) := by
  have hu : c ≠ 'u' := by
    rintro rfl
    cases he
  rw [string?.eq_def]
  simp only [if_neg (show '\\' ≠ '"' by decide), if_true]
  rw [he]

theorem string?_number {n : Nat} {rest : Glyphs} (hfour : hexFour? rest = some (n, t))
    (halone : 0xD800 ≤ n ∧ n ≤ 0xDBFF → lowHalf? t = none) (fuel : Nat) :
    ∃ g, string? (fuel + 1) (some '\\' :: some 'u' :: rest) = (string? fuel t).map fun p => (g :: p.1, p.2) := by
  rw [string?.eq_def]
  simp only [if_neg (show '\\' ≠ '"' by decide), if_true, hfour]
  by_cases hhigh : 0xD800 ≤ n ∧ n ≤ 0xDBFF
  · simp only [if_pos hhigh, halone hhigh]
    exact ⟨_, rfl⟩
  · simp only [if_neg hhigh]
    split
    · exact ⟨_, rfl⟩
    · exact ⟨_, rfl⟩

theorem string?_pair {n low : Nat} {rest rest' : Glyphs} (hfour : hexFour? rest = some (n, t))
    (hhigh : 0xD800 ≤ n ∧ n ≤ 0xDBFF) (hlow : lowHalf? t = some (low, rest')) (fuel : Nat) :
    ∃ g, string? (fuel + 1) (some '\\' :: some 'u' :: rest) = (string? fuel rest').map fun p => (g :: p.1, p.2) := by
  rw [string?.eq_def]
  simp only [if_neg (show '\\' ≠ '"' by decide), if_true, hfour, if_pos hhigh, hlow]
  exact ⟨_, rfl⟩

/-- What is read first is put before the rest. -/
theorem exists_string?_succ {fuel : Nat} {text : Glyphs} {g : Option Char}
    (htext : string? (fuel + 1) text = (string? fuel t).map fun p => (g :: p.1, p.2))
    (h : ∃ s, string? fuel t = some (s, r)) : ∃ s, string? (fuel + 1) text = some (s, r) := by
  obtain ⟨s, hs⟩ := h
  exact ⟨g :: s, by rw [htext, hs]; rfl⟩

theorem Grammar.Characters.exists_string? (h : Characters t r) :
    ∀ fuel, t.length ≤ fuel + r.length → ∃ s, string? fuel t = some (s, r) := by
  induction h with
  | close t => exact forall_fuel_of_succ (Nat.lt_succ_self _) fun fuel _ => ⟨[], rfl⟩
  | fault h ih =>
    refine forall_fuel_of_succ h.fault.length_lt fun fuel hfuel => ?_
    simp only [List.length_cons] at hfuel
    exact exists_string?_succ rfl (ih fuel (by omega))
  | plain hquote hslash hcontrol h ih =>
    refine forall_fuel_of_succ (h.plain hquote hslash hcontrol).length_lt fun fuel hfuel => ?_
    simp only [List.length_cons] at hfuel
    exact exists_string?_succ (string?_plain hquote hslash hcontrol fuel _) (ih fuel (by omega))
  | letter hc h ih =>
    refine forall_fuel_of_succ (h.letter hc).length_lt fun fuel hfuel => ?_
    simp only [List.length_cons] at hfuel
    obtain ⟨e, he⟩ := Option.isSome_iff_exists.1 (escaped?_isSome_iff.2 hc)
    exact exists_string?_succ (string?_letter he fuel _) (ih fuel (by omega))
  | @number a b c d t r ha hb hc hd h ih =>
    refine forall_fuel_of_succ (h.number ha hb hc hd).length_lt fun fuel hfuel => ?_
    simp only [List.length_cons] at hfuel
    obtain ⟨n, hfour⟩ := exists_hexFour? ha hb hc hd t
    cases hhalf : lowHalf? t with
    | none =>
      obtain ⟨g, hg⟩ := string?_number hfour (fun _ => hhalf) fuel
      exact exists_string?_succ hg (ih fuel (by omega))
    | some half =>
      obtain ⟨low, rest'⟩ := half
      by_cases hhigh : 0xD800 ≤ n ∧ n ≤ 0xDBFF
      · obtain ⟨g, hg⟩ := string?_pair hfour hhigh hhalf fuel
        refine exists_string?_succ hg ?_
        -- the second half is read from the same text as where it stands alone
        obtain ⟨s, hs⟩ := ih (fuel + 1) (by omega)
        obtain ⟨hmin, -, rest₁, rfl, hfour'⟩ := lowHalf?_eq_some hhalf
        obtain ⟨g', hg'⟩ := string?_number hfour' (fun h => by omega) fuel
        rw [hg'] at hs
        obtain ⟨⟨s', r'⟩, hrest, heq⟩ := Option.map_eq_some_iff.1 hs
        cases heq
        exact ⟨s', hrest⟩
      · obtain ⟨g, hg⟩ := string?_number hfour (fun h => absurd h hhigh) fuel
        exact exists_string?_succ hg (ih fuel (by omega))

end MailReconciler.Json
