/-
Internet addresses are read back from their texts, whatever stands behind them that goes on neither with a number nor
with the address.
-/
import MailReconciler.Address.Internet
import MailReconciler.Proofs.Json.Writing

namespace MailReconciler

variable {base : Nat} {text rest digits : List Char}

/-! ## Numbers -/

/-- What does not go on with a digit. -/
def EndsNumber (base : Nat) (rest : List Char) : Prop := ∀ c ∈ rest.head?, digitOf? base c = none

theorem endsNumber_cons {c : Char} (h : digitOf? base c = none) (rest : List Char) : EndsNumber base (c :: rest) := by
  intro d hd
  obtain rfl := Option.mem_some.1 hd
  exact h

theorem digitOf?_digitChar (hbase : base ≤ 16) {d : Nat} (hd : d < base) :
    digitOf? base (Nat.digitChar d) = some d := by
  have hdigits : ∀ d < 16, (Nat.digitChar d).toNat < 128 ∧
      Text.hexByte? (UInt8.ofNat (Nat.digitChar d).toNat) = some d := by decide
  obtain ⟨hascii, hvalue⟩ := hdigits d (by omega)
  rw [digitOf?, if_pos hascii, hvalue, Option.filter_some, decide_eq_true hd]
  rfl

theorem digitOf?_of_le {base' d : Nat} {c : Char} (hle : base ≤ base') (h : digitOf? base c = some d) :
    digitOf? base' c = some d := by
  unfold digitOf? at h ⊢
  split at h
  · next hascii =>
    obtain ⟨hvalue, hlt⟩ := Option.filter_eq_some_iff.1 h
    rw [if_pos hascii, hvalue, Option.filter_some, if_pos]
    simp only [decide_eq_true_eq] at hlt ⊢
    omega
  · cases h

theorem EndsNumber.of_le {base' : Nat} (hle : base ≤ base') (h : EndsNumber base' rest) : EndsNumber base rest := by
  intro c hc
  refine Option.eq_none_iff_forall_ne_some.2 fun d hd => ?_
  have hnone := h c hc
  rw [digitOf?_of_le hle hd] at hnone
  cases hnone

theorem takeWhile_digits_append (hdigits : ∀ c ∈ digits, (digitOf? base c).isSome = true)
    (hrest : EndsNumber base rest) : (digits ++ rest).takeWhile (fun c => (digitOf? base c).isSome) = digits := by
  have hnone : rest.takeWhile (fun c => (digitOf? base c).isSome) = [] := by
    cases rest with
    | nil => rfl
    | cons c rest => rw [List.takeWhile_cons, hrest c rfl]; rfl
  rw [List.takeWhile_append_of_pos hdigits, hnone, List.append_nil]

/-- The digits of a number are digits, and spell it. -/
theorem digits_toDigits (hone : 1 < base) (hbase : base ≤ 16) (n : Nat) :
    (∀ c ∈ Nat.toDigits base n, (digitOf? base c).isSome = true) ∧
      (Nat.toDigits base n).foldl (fun m c => m * base + (digitOf? base c).getD 0) 0 = n := by
  induction n using Nat.strongRecOn with
  | ind n ih =>
    by_cases hlt : n < base
    · rw [Nat.toDigits_of_lt_base hlt]
      simp [digitOf?_digitChar hbase hlt]
    · have hge : base ≤ n := Nat.le_of_not_lt hlt
      have hlast := digitOf?_digitChar hbase (Nat.mod_lt n (show 0 < base by omega))
      obtain ⟨hfirst, hvalue⟩ := ih (n / base) (Nat.div_lt_self (by omega) hone)
      rw [Nat.toDigits_of_base_le hone hge]
      constructor
      · intro c hc
        rcases List.mem_append.1 hc with hc | hc
        · exact hfirst c hc
        · rw [List.mem_singleton.1 hc, hlast]
          rfl
      · rw [List.foldl_append, hvalue, List.foldl_cons, List.foldl_nil, hlast, Option.getD_some]
        exact Nat.div_add_mod' n base

theorem takeNumber?_toDigits (hone : 1 < base) (hbase : base ≤ 16) (n : Nat) (hrest : EndsNumber base rest) :
    takeNumber? base (Nat.toDigits base n ++ rest) = some (Nat.toDigits base n, n, rest) := by
  obtain ⟨hdigits, hvalue⟩ := digits_toDigits hone hbase n
  have hne : (Nat.toDigits base n).isEmpty = false := by simp [Nat.toDigits_ne_nil]
  unfold takeNumber?
  simp only [takeWhile_digits_append hdigits hrest, hne, hvalue, List.drop_left]
  rfl

theorem takeNumber?_of_endsNumber (hrest : EndsNumber base rest) : takeNumber? base rest = none := by
  have hnone := @takeWhile_digits_append base rest [] (fun c hc => by cases hc) hrest
  rw [List.nil_append] at hnone
  unfold takeNumber?
  rw [hnone]
  rfl

/-- A number that is read is the digits at the front of a text. -/
theorem eq_append_of_takeNumber? {n : Nat} (h : takeNumber? base text = some (digits, n, rest)) :
    text = digits ++ rest ∧ ∀ c ∈ digits, (digitOf? base c).isSome = true := by
  unfold takeNumber? at h
  dsimp only at h
  split at h
  · cases h
  · cases h
    constructor
    · exact (List.prefix_iff_eq_append.1 (List.takeWhile_prefix _)).symm
    · exact fun c hc => List.all_eq_true.1 List.all_takeWhile c hc

theorem eq_cons_of_dropChar? {c : Char} (h : dropChar? c text = some rest) : text = c :: rest := by
  cases text with
  | nil => cases h
  | cons d text =>
    by_cases hd : c = d
    · rw [dropChar?, if_pos hd] at h
      rw [hd, Option.some.inj h]
    · rw [dropChar?, if_neg hd] at h
      cases h

/-! ## Four bytes -/

namespace Ipv4

theorem byte?_toDigits (b : UInt8) (hrest : EndsNumber 10 rest) :
    byte? (Nat.toDigits 10 b.toNat ++ rest) = some (b, rest) := by
  have hlt := b.toNat_lt
  have hlength : (Nat.toDigits 10 b.toNat).length ≤ 3 :=
    (Nat.length_toDigits_le_iff (by decide) (by decide)).2 (by omega)
  have hzero : ¬((Nat.toDigits 10 b.toNat).head? = some '0' ∧ 1 < (Nat.toDigits 10 b.toNat).length) := by
    rintro ⟨hhead, hlong⟩
    by_cases hb : b.toNat = 0
    · rw [hb] at hlong
      exact absurd hlong (by decide)
    · exact Json.head?_toDigits hb hhead
  have hkept : ¬(3 < (Nat.toDigits 10 b.toNat).length ∨
      ((Nat.toDigits 10 b.toNat).head? = some '0' ∧ 1 < (Nat.toDigits 10 b.toNat).length) ∨ 255 < b.toNat) := by
    rintro (h | h | h)
    · omega
    · exact hzero h
    · omega
  unfold byte?
  rw [takeNumber?_toDigits (by decide) (by decide) _ hrest]
  simp only [Option.bind_eq_bind, Option.bind_some, if_neg hkept, UInt8.ofNat_toNat]

theorem toList_render (a : Ipv4) : a.render.toList =
    Nat.toDigits 10 a.first.toNat ++ '.' :: (Nat.toDigits 10 a.second.toNat ++ '.' ::
      (Nat.toDigits 10 a.third.toNat ++ '.' :: Nat.toDigits 10 a.fourth.toNat)) := by
  unfold render
  rw [String.toList_intercalate]
  simp [List.intercalate]

theorem take?_render (a : Ipv4) (hrest : EndsNumber 10 rest) : take? (a.render.toList ++ rest) = some (a, rest) := by
  have hpoint := endsNumber_cons (show digitOf? 10 '.' = none by decide)
  unfold take?
  rw [toList_render]
  simp only [List.append_assoc, List.cons_append, byte?_toDigits _ (hpoint _), byte?_toDigits _ hrest, dropChar?,
    Option.bind_eq_bind, Option.bind_some, if_true]
  rfl

theorem take?_of_endsNumber (hrest : EndsNumber 10 rest) : take? rest = none := by
  unfold take? byte?
  rw [takeNumber?_of_endsNumber hrest]
  rfl

/-- A number in front of another character than a point begins no address. -/
theorem take?_eq_none (hdigits : ∀ c ∈ digits, (digitOf? 16 c).isSome = true) (hrest : EndsNumber 16 rest)
    (hpoint : rest.head? ≠ some '.') : take? (digits ++ rest) = none := by
  refine Option.eq_none_iff_forall_ne_some.2 fun ⟨a, behind⟩ htake => ?_
  obtain ⟨⟨b, t₁⟩, hbyte, htake⟩ := Option.bind_eq_some_iff.1 htake
  obtain ⟨t₂, hdrop, -⟩ := Option.bind_eq_some_iff.1 htake
  obtain ⟨⟨front, n, t₃⟩, hnumber, hbyte⟩ := Option.bind_eq_some_iff.1 hbyte
  obtain ⟨htext, hfront⟩ := eq_append_of_takeNumber? hnumber
  obtain rfl := eq_cons_of_dropChar? hdrop
  have ht₁ : t₃ = '.' :: t₂ := by
    dsimp only at hbyte
    split at hbyte
    · cases hbyte
    · cases hbyte
      rfl
  subst ht₁
  -- both ways to take the text apart end at its first character that is no digit
  have hsixteen : ∀ c ∈ front, (digitOf? 16 c).isSome = true := by
    intro c hc
    obtain ⟨d, hd⟩ := Option.isSome_iff_exists.1 (hfront c hc)
    rw [digitOf?_of_le (by decide) hd]
    rfl
  have hfirst := takeWhile_digits_append hdigits hrest
  have hsecond := takeWhile_digits_append hsixteen (endsNumber_cons (show digitOf? 16 '.' = none by decide) t₂)
  rw [← htext, hfirst] at hsecond
  subst hsecond
  exact hpoint (by rw [List.append_cancel_left htext]; rfl)

theorem groupsOf_ofNat (high low : UInt16) : Ipv6.groupsOf (ofNat (high.toNat * 65536 + low.toNat)) = [high, low] := by
  have hhigh := high.toNat_lt
  have hlow := low.toNat_lt
  simp only [Ipv6.groupsOf, ofNat, List.cons.injEq, and_true, ← UInt16.toNat_inj, UInt16.toNat_ofNat',
    UInt8.toNat_ofNat', Nat.shiftRight_eq_div_pow]
  omega

end Ipv4

/-! ## Eight groups -/

namespace Ipv6

variable {groups : List UInt16}

/-- What goes on neither with a group nor with a colon and a group. -/
structure EndsGroups (rest : List Char) : Prop where
  endsNumber : EndsNumber 16 rest
  head?_ne : rest.head? ≠ some '.'
  behind : ∀ t, rest = ':' :: t → EndsNumber 16 t

theorem group?_hex (g : UInt16) (hrest : EndsNumber 16 rest) :
    group? (Nat.toDigits 16 g.toNat ++ rest) = some (g, rest) := by
  have hlt := g.toNat_lt
  have hlength : (Nat.toDigits 16 g.toNat).length ≤ 4 :=
    (Nat.length_toDigits_le_iff (by decide) (by decide)).2 (by omega)
  unfold group?
  rw [takeNumber?_toDigits (by decide) (by decide) _ hrest]
  simp only [Option.bind_eq_bind, Option.bind_some, if_neg (Nat.not_lt.2 hlength), UInt16.ofNat_toNat]

theorem takeGroups_of_endsGroups (hrest : EndsGroups rest) (first : Bool) (room : Nat) :
    takeGroups first room rest = ([], false, rest) := by
  cases hsep : separated? first rest with
  | none => cases room <;> simp [takeGroups, hsep]
  | some behind =>
    have hends : EndsNumber 16 behind := by
      cases first with
      | true =>
        cases hsep
        exact hrest.endsNumber
      | false =>
        obtain rfl := eq_cons_of_dropChar? hsep
        exact hrest.behind behind rfl
    have hgroup : group? behind = none := by
      unfold group?
      rw [takeNumber?_of_endsNumber hends]
      rfl
    cases room with
    | zero => rfl
    | succ room =>
      rw [takeGroups]
      simp only [hsep, Ipv4.take?_of_endsNumber (hends.of_le (by decide)), ite_self, hgroup]

/-- One group, with or without a colon before it. -/
theorem takeGroups_group {first : Bool} {behind : List Char} {g : UInt16} (room : Nat)
    (hsep : separated? first text = some (Nat.toDigits 16 g.toNat ++ behind)) (hends : EndsNumber 16 behind)
    (hpoint : behind.head? ≠ some '.') : takeGroups first (room + 1) text =
      (g :: (takeGroups false room behind).1, (takeGroups false room behind).2.1,
        (takeGroups false room behind).2.2) := by
  have hfour := Ipv4.take?_eq_none (digits_toDigits (by decide) (by decide) g.toNat).1 hends hpoint
  rw [takeGroups]
  simp only [hsep, hfour, ite_self, group?_hex g hends]

/-- An address of four bytes stands for the last two groups. -/
theorem takeGroups_dotted {first : Bool} {behind : List Char} {a : Ipv4} {room : Nat} (hroom : room ≠ 0)
    (hsep : separated? first text = some behind) (htake : Ipv4.take? behind = some (a, rest)) :
    takeGroups first (room + 1) text = (groupsOf a, true, rest) := by
  rw [takeGroups]
  simp only [hsep, if_neg hroom, htake]

/-- Groups with a colon before each. -/
def behindColons (groups : List UInt16) : List Char := groups.flatMap fun g => ':' :: Nat.toDigits 16 g.toNat

theorem EndsGroups.ends_behindColons (hrest : EndsGroups rest) (groups : List UInt16) :
    EndsNumber 16 (behindColons groups ++ rest) ∧ (behindColons groups ++ rest).head? ≠ some '.' := by
  cases groups with
  | nil => exact ⟨hrest.endsNumber, hrest.head?_ne⟩
  | cons g groups => exact ⟨endsNumber_cons (by decide) _, by simp [behindColons]⟩

theorem takeGroups_behindColons (hrest : EndsGroups rest) {room : Nat} (hroom : groups.length ≤ room) :
    takeGroups false room (behindColons groups ++ rest) = (groups, false, rest) := by
  induction groups generalizing room with
  | nil => exact takeGroups_of_endsGroups hrest false room
  | cons g groups ih =>
    obtain ⟨room, rfl⟩ := Nat.exists_eq_add_one_of_ne_zero (show room ≠ 0 by simp at hroom; omega)
    obtain ⟨hends, hpoint⟩ := hrest.ends_behindColons groups
    have hsep : separated? false (behindColons (g :: groups) ++ rest) =
        some (Nat.toDigits 16 g.toNat ++ (behindColons groups ++ rest)) := by
      simp [behindColons, separated?, dropChar?]
    rw [takeGroups_group room hsep hends hpoint, ih (Nat.le_of_succ_le_succ hroom)]

theorem toList_joinGroups (g : UInt16) (groups : List UInt16) :
    (joinGroups (g :: groups)).toList = Nat.toDigits 16 g.toNat ++ behindColons groups := by
  unfold joinGroups behindColons
  rw [String.toList_intercalate]
  induction groups generalizing g with
  | nil => simp [Text.hex]
  | cons next groups ih => simpa [List.intercalate, Text.hex] using ih next

theorem takeGroups_joinGroups (hrest : EndsGroups rest) {room : Nat} (hroom : groups.length ≤ room) :
    takeGroups true room ((joinGroups groups).toList ++ rest) = (groups, false, rest) := by
  cases groups with
  | nil => exact takeGroups_of_endsGroups hrest true room
  | cons g groups =>
    obtain ⟨room, rfl⟩ := Nat.exists_eq_add_one_of_ne_zero (show room ≠ 0 by simp at hroom; omega)
    obtain ⟨hends, hpoint⟩ := hrest.ends_behindColons groups
    rw [toList_joinGroups, List.append_assoc, takeGroups_group room rfl hends hpoint,
      takeGroups_behindColons hrest (Nat.le_of_succ_le_succ hroom)]

/-! ### Runs of zeros -/

theorem zeros_of_zeroRuns {i k : Nat} (h : (zeroRuns groups)[i]? = some k) :
    groups.drop i = List.replicate k 0 ++ groups.drop (i + k) := by
  induction groups generalizing i k with
  | nil => cases h
  | cons g groups ih =>
    cases i with
    | succ i =>
      rw [Nat.succ_add]
      exact ih h
    | zero =>
      simp only [zeroRuns, List.getElem?_cons_zero, Option.some.injEq] at h
      split at h
      · next hzero =>
        subst h hzero
        have hrun : groups = List.replicate ((zeroRuns groups).headD 0) 0 ++ groups.drop ((zeroRuns groups).headD 0) := by
          cases hruns : zeroRuns groups with
          | nil => rfl
          | cons k runs =>
            have hhead := @ih 0 k (by rw [hruns]; rfl)
            simpa using hhead
        simpa [List.replicate_succ] using hrun
      · subst h
        rfl

theorem foldl_max_mem (runs : List Nat) (n : Nat) : runs.foldl max n = n ∨ runs.foldl max n ∈ runs := by
  induction runs generalizing n with
  | nil => exact .inl rfl
  | cons k runs ih =>
    rw [List.foldl_cons]
    rcases ih (max n k) with h | h
    · rw [h]
      rcases Nat.le_total n k with hle | hle
      · exact .inr (by rw [Nat.max_eq_right hle]; exact List.mem_cons_self)
      · exact .inl (Nat.max_eq_left hle)
    · exact .inr (List.mem_cons_of_mem k h)

/-- What is left out is a run of at least two zeros. -/
theorem longestRun?_eq_some {start length : Nat} (h : longestRun? groups = some (start, length)) :
    2 ≤ length ∧ start + length ≤ groups.length ∧
      groups = groups.take start ++ List.replicate length 0 ++ groups.drop (start + length) := by
  unfold longestRun? at h
  dsimp only at h
  split at h
  · cases h
  · next hlong =>
    obtain ⟨rfl, rfl⟩ := Prod.mk.inj (Option.some.inj h)
    generalize hlongest : (zeroRuns groups).foldl max 0 = longest at hlong ⊢
    have hmem : longest ∈ zeroRuns groups := by
      rcases foldl_max_mem (zeroRuns groups) 0 with hzero | hmem
      · omega
      · rwa [hlongest] at hmem
    have hlt : (zeroRuns groups).findIdx (· == longest) < (zeroRuns groups).length :=
      List.findIdx_lt_length_of_exists ⟨longest, hmem, beq_self_eq_true longest⟩
    have hfound : (zeroRuns groups)[(zeroRuns groups).findIdx (· == longest)]? = some longest := by
      rw [List.getElem?_eq_getElem hlt]
      exact congrArg some (eq_of_beq (List.findIdx_getElem (w := hlt)))
    have hzeros := zeros_of_zeroRuns hfound
    have hlength := congrArg List.length hzeros
    simp only [List.length_append, List.length_drop, List.length_replicate] at hlength
    refine ⟨by omega, by omega, ?_⟩
    rw [List.append_assoc, ← hzeros, List.take_append_drop]

/-! ### Whole addresses -/

theorem ofGroups?_groups (a : Ipv6) : ofGroups? a.groups = some a := dif_pos a.length_eq

/-- Two colons stand for the groups that are missing. -/
theorem take?_of_colons {a : Ipv6} {head tail : List UInt16} {behind : List Char} {dotted : Bool}
    (hhead : takeGroups true 8 text = (head, false, ':' :: ':' :: behind)) (hlt : head.length < 8)
    (htail : takeGroups true (7 - head.length) behind = (tail, dotted, rest))
    (hgroups : a.groups = head ++ List.replicate (8 - head.length - tail.length) 0 ++ tail) :
    take? text = some (a, rest) := by
  unfold take?
  simp only [hhead, if_neg (Nat.ne_of_lt hlt), dropChar?, if_true, htail, ← hgroups, ofGroups?_groups,
    Option.bind_eq_bind, Option.bind_some, Option.pure_def]
  rfl

theorem endsGroups_colons (behind : List Char) : EndsGroups (':' :: ':' :: behind) where
  endsNumber := endsNumber_cons (by decide) _
  head?_ne := by simp
  behind t ht := by
    cases ht
    exact endsNumber_cons (by decide) _

/-- The digits of the group before the four bytes of a mapped address. -/
def mappedText : List Char := ['f', 'f', 'f', 'f']

theorem toDigits_mapped : Nat.toDigits 16 (0xFFFF : UInt16).toNat = mappedText := by
  show Nat.toDigits 16 65535 = _
  rw [Nat.toDigits_of_base_le (by decide) (by decide), Nat.toDigits_of_base_le (by decide) (by decide),
    Nat.toDigits_of_base_le (by decide) (by decide), Nat.toDigits_of_lt_base (by decide)]
  rfl

theorem toList_mapped (text : String) :
    ("::ffff:" ++ text).toList ++ rest = ':' :: ':' :: (mappedText ++ ':' :: (text.toList ++ rest)) := by
  have hfront : "::ffff:".toList = ':' :: ':' :: (mappedText ++ [':']) := String.toList_ofList
  simp only [String.toList_append, hfront, List.cons_append, List.append_assoc, List.nil_append]

theorem takeGroups_mapped (four : Ipv4) (hrest : EndsNumber 10 rest) :
    takeGroups true 7 (mappedText ++ ':' :: (four.render.toList ++ rest)) = (0xFFFF :: groupsOf four, true, rest) := by
  have htake := Ipv4.take?_render four hrest
  have hsep : separated? false (':' :: (four.render.toList ++ rest)) = some (four.render.toList ++ rest) := rfl
  rw [← toDigits_mapped, takeGroups_group (5 + 1) rfl (endsNumber_cons (by decide) _) (by simp),
    takeGroups_dotted (by decide) hsep htake]

theorem take?_render (a : Ipv6) (hrest : EndsGroups rest) : take? (a.render.toList ++ rest) = some (a, rest) := by
  have hlength := a.length_eq
  unfold render
  split
  · next high low hmapped =>
    have htail := takeGroups_mapped (Ipv4.ofNat (high.toNat * 65536 + low.toNat)) (hrest.endsNumber.of_le (by decide))
    rw [Ipv4.groupsOf_ofNat] at htail
    rw [toList_mapped]
    exact take?_of_colons (takeGroups_of_endsGroups (endsGroups_colons _) true 8) (by simp) htail hmapped
  · split
    · next hnone =>
      unfold take?
      rw [takeGroups_joinGroups hrest (Nat.le_of_eq hlength)]
      simp [hlength, ofGroups?_groups]
    · next start length hrun =>
      obtain ⟨htwo, hle, hgroups⟩ := longestRun?_eq_some hrun
      have hhead : (a.groups.take start).length = start := List.length_take_of_le (by omega)
      have htext : (joinGroups (a.groups.take start) ++ "::" ++ joinGroups (a.groups.drop (start + length))).toList ++
          rest = (joinGroups (a.groups.take start)).toList ++
            ':' :: ':' :: ((joinGroups (a.groups.drop (start + length))).toList ++ rest) := by
        simp
      rw [htext]
      refine take?_of_colons (takeGroups_joinGroups (endsGroups_colons _) (by omega)) (by omega)
        (takeGroups_joinGroups hrest ?_) ?_
      · rw [List.length_drop, hhead]
        omega
      · rw [hhead, List.length_drop, hlength, show 8 - start - (8 - (start + length)) = length by omega]
        exact hgroups

end Ipv6
end MailReconciler
