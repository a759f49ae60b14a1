/-
Values that are written are read back. This holds of every value without doubles whose integers are those that a number
can be, and of all its strings, whatever characters they hold (`parse?_render`). What stands behind a value does not
matter, as long as it does not go on a numeral.
-/
import MailReconciler.Json.Writing
import MailReconciler.Proofs.Json.Values
import MailReconciler.Proofs.Text.Encoding

namespace MailReconciler.Json

open Text (Glyphs)
open Decimal (isDigit)

variable {tail : List Char} {c : Char}

/-! ## Strings -/

theorem hexDigit?_hexChar : ∀ n < 16, hexDigit? (hexChar n) = some n := by decide

/-- An escape by number of a character that is no half of a surrogate pair. -/
theorem string?_scalar {n : Nat} {t rest : Glyphs} (hfour : hexFour? rest = some (n, t)) (hn : n < 0xD800)
    (fuel : Nat) :
    string? (fuel + 1) (some '\\' :: some 'u' :: rest) =
      (string? fuel t).map fun p => (some (Char.ofNat n) :: p.1, p.2) := by
  have hhigh : ¬ (0xD800 ≤ n ∧ n ≤ 0xDBFF) := fun h => absurd h.1 (Nat.not_le.2 hn)
  have hlow : ¬ (0xDC00 ≤ n ∧ n ≤ 0xDFFF) := fun h => absurd (Nat.le_trans (by decide) h.1) (Nat.not_le.2 hn)
  rw [string?.eq_def]
  simp only [if_neg (show '\\' ≠ '"' by decide), if_true, hfour, if_neg hhigh, if_neg hlow]

/-- Every character is read back, escaped or not. -/
theorem string?_escape (c : Char) (fuel : Nat) (t : Glyphs) :
    string? (fuel + 1) ((escape c).map some ++ t) = (string? fuel t).map fun p => (some c :: p.1, p.2) := by
  have hletter : ∀ {d : Char}, escaped? d = some c → escape c = ['\\', d] →
      string? (fuel + 1) ((escape c).map some ++ t) = (string? fuel t).map fun p => (some c :: p.1, p.2) := by
    intro d hd hescape
    rw [hescape]
    exact string?_letter hd fuel t
  by_cases h : c = '"' ∨ c = '\\' ∨ c = '\x08' ∨ c = '\x0c' ∨ c = '\n' ∨ c = '\r' ∨ c = '\t'
  · rcases h with rfl | rfl | rfl | rfl | rfl | rfl | rfl
    · exact hletter (d := '"') rfl rfl
    · exact hletter (d := '\\') rfl rfl
    · exact hletter (d := 'b') rfl rfl
    · exact hletter (d := 'f') rfl rfl
    · exact hletter (d := 'n') rfl rfl
    · exact hletter (d := 'r') rfl rfl
    · exact hletter (d := 't') rfl rfl
  · simp only [not_or] at h
    obtain ⟨hquote, hslash, h⟩ := h
    by_cases hcontrol : c.toNat < 0x20
    · have hescape : escape c = ['\\', 'u', '0', '0', hexChar (c.toNat / 16), hexChar (c.toNat % 16)] := by
        unfold escape
        simp only [hquote, hslash, h, if_false, hcontrol, if_true]
      have hfour : hexFour? (some '0' :: some '0' :: some (hexChar (c.toNat / 16)) ::
          some (hexChar (c.toNat % 16)) :: t) = some (c.toNat, t) := by
        have hzero : hexDigit? '0' = some 0 := rfl
        simp only [hexFour?, hzero, hexDigit?_hexChar _ (show c.toNat / 16 < 16 by omega),
          hexDigit?_hexChar _ (Nat.mod_lt c.toNat (by decide)), Option.bind_eq_bind, Option.bind_some, Option.pure_def]
        congr 2
        omega
      rw [hescape]
      refine (string?_scalar hfour (by omega) fuel).trans ?_
      rw [Char.ofNat_toNat]
    · have hescape : escape c = [c] := by
        unfold escape
        simp only [hquote, hslash, h, if_false, hcontrol]
      rw [hescape]
      exact string?_plain hquote hslash (Nat.le_of_not_lt hcontrol) fuel t

theorem escape_ne_nil (c : Char) : escape c ≠ [] := by
  unfold escape
  repeat' split
  all_goals exact List.cons_ne_nil _ _

/-- The characters of a string are read back, with its closing quote. -/
theorem string?_written (s : List Char) (t : Glyphs) : ∀ fuel, s.length < fuel →
    string? fuel ((s.flatMap escape).map some ++ some '"' :: t) = some (s.map some, t) := by
  induction s with
  | nil =>
    intro fuel hfuel
    obtain ⟨fuel, rfl⟩ := Nat.exists_eq_add_one_of_ne_zero (Nat.ne_of_gt hfuel)
    rfl
  | cons c s ih =>
    intro fuel hfuel
    obtain ⟨fuel, rfl⟩ := Nat.exists_eq_add_one_of_ne_zero (Nat.ne_of_gt (Nat.zero_lt_of_lt hfuel))
    rw [List.flatMap_cons, List.map_append, List.append_assoc, string?_escape,
      ih fuel (Nat.lt_of_succ_lt_succ hfuel)]
    rfl

theorem length_le_length_flatMap_escape (s : List Char) : s.length ≤ (s.flatMap escape).length := by
  induction s with
  | nil => exact Nat.le_refl _
  | cons c s ih =>
    have hpos := List.length_pos_iff.2 (escape_ne_nil c)
    rw [List.flatMap_cons, List.length_append, List.length_cons]
    omega

theorem textOf?_map_some (s : List Char) : textOf? (s.map some) = some (String.ofList s) := by
  unfold textOf?
  rw [Text.mapM_id_map_some, Option.map_some]

/-! ## Integers -/

theorem isDigit_of_core (h : c.isDigit = true) : isDigit c = true := by
  have hdigit : 48 ≤ c.val ∧ c.val ≤ 57 := by simpa [Char.isDigit] using h
  have hle : '0' ≤ c ∧ c ≤ '9' := hdigit
  unfold isDigit Decimal.digit?
  rw [if_pos hle]
  rfl

theorem isDigit_of_mem_toDigits {n : Nat} (h : c ∈ Nat.toDigits 10 n) : isDigit c = true :=
  isDigit_of_core (Nat.isDigit_of_mem_toDigits (by decide) (by decide) h)

/-- The digits of a number other than zero do not begin with a zero. -/
theorem head?_toDigits {n : Nat} (hn : n ≠ 0) : (Nat.toDigits 10 n).head? ≠ some '0' := by
  induction n using Nat.strongRecOn with
  | ind n ih =>
    by_cases hlt : n < 10
    · have hdigits : ∀ k < 10, k ≠ 0 → (Nat.toDigits 10 k).head? ≠ some '0' := by decide
      exact hdigits n hlt hn
    · have hge : 10 ≤ n := Nat.le_of_not_lt hlt
      have hfirst := ih (n / 10) (by omega) (by omega)
      obtain ⟨d, digits, hdigits⟩ := List.exists_cons_of_ne_nil (Nat.toDigits_ne_nil (n := n / 10) (b := 10))
      rw [hdigits] at hfirst
      rw [Nat.toDigits_of_base_le (by decide) hge, hdigits]
      exact hfirst

theorem le_ofDigitChars (digits : List Char) (n : Nat) : n ≤ Nat.ofDigitChars 10 digits n := by
  induction digits generalizing n with
  | nil => exact Nat.le_of_eq Nat.ofDigitChars_nil.symm
  | cons c digits ih =>
    rw [Nat.ofDigitChars_cons]
    exact Nat.le_trans (by omega) (ih _)

/-- Digits are gathered as a whole if their number fits in sixty-four bits. -/
theorem gather_of_lt {digits : List Char} (hdigits : ∀ c ∈ digits, isDigit c = true) {n : Nat}
    (hlt : Nat.ofDigitChars 10 digits n < UInt64.size) : gather n digits = (Nat.ofDigitChars 10 digits n, []) := by
  induction digits generalizing n with
  | nil => rw [Nat.ofDigitChars_nil]; rfl
  | cons c digits ih =>
    have hc : Decimal.digit? c = some (c.toNat - '0'.toNat) := by
      have hsome := hdigits c List.mem_cons_self
      unfold isDigit Decimal.digit? at hsome
      unfold Decimal.digit?
      split at hsome
      · next h => rw [if_pos h]
      · cases hsome
    rw [Nat.ofDigitChars_cons] at hlt ⊢
    rw [gather]
    simp only [hc, Option.getD_some, if_pos (Nat.lt_of_le_of_lt (le_ofDigitChars digits _) hlt)]
    exact ih (fun d hd => hdigits d (List.mem_cons_of_mem c hd)) hlt

theorem gather_toDigits {n : Nat} (hn : n < UInt64.size) : gather 0 (Nat.toDigits 10 n) = (n, []) := by
  have hvalue : Nat.ofDigitChars 10 (Nat.toDigits 10 n) 0 = n := Nat.ofDigitChars_ten_toDigits
  rw [gather_of_lt (fun c hc => isDigit_of_mem_toDigits hc) (by rw [hvalue]; exact hn), hvalue]

/-- The integers that a number can be: those of sixty-four bits, with a sign or without. -/
def IsInteger (n : Int) : Prop := -(1 <<< 63 : Nat) ≤ n ∧ n < (1 <<< 64 : Nat)

/-- The digits of a number are read as one token, with a sign or without. -/
theorem token?_toDigits (n : Nat) {r : Glyphs} (hr : Begins EndsNumeral r) :
    token? ((Nat.toDigits 10 n).map some ++ r) = some (⟨false, Nat.toDigits 10 n, none, none⟩, r) ∧
    token? (some '-' :: ((Nat.toDigits 10 n).map some ++ r)) = some (⟨true, Nat.toDigits 10 n, none, none⟩, r) := by
  have hdigits : ∀ c ∈ Nat.toDigits 10 n, isDigit c = true := fun c hc => isDigit_of_mem_toDigits hc
  have hwhole := digits?_of_digits Nat.toDigits_ne_nil hdigits fun c t hc => (hr c t hc).1
  have hkept : ¬((Nat.toDigits 10 n).head? = some '0' ∧ (Nat.toDigits 10 n).length ≠ 1) := by
    rintro ⟨hhead, hlength⟩
    by_cases hn : n = 0
    · exact hlength (by rw [hn]; rfl)
    · exact head?_toDigits hn hhead
  -- nothing behind the digits belongs to the number
  have hfraction : fraction? r = some (none, r) := by
    unfold fraction?
    split
    · next rest => exact absurd rfl (hr _ _ rfl).2.1
    · rfl
  have hexponent : exponent? r = some (none, r) := by
    unfold exponent?
    split
    · next c rest => rw [if_neg fun h => h.elim (hr c rest rfl).2.2.1 (hr c rest rfl).2.2.2]
    · rfl
  constructor
  · obtain ⟨d, rest, heq, hd⟩ := exists_eq_cons_of_digits Nat.toDigits_ne_nil hdigits r
    have hminus : d ≠ '-' := by rintro rfl; exact absurd hd (by decide)
    unfold token?
    dsimp only
    split
    · next hsign =>
      cases heq.symm.trans hsign
      exact absurd rfl hminus
    · simp [hwhole, hkept, hfraction, hexponent]
  · unfold token?
    simp [hwhole, hkept, hfraction, hexponent]

/-- An integer is read back. -/
theorem value?_integer {n : Int} (hn : IsInteger n) {r : Glyphs} (hr : Begins EndsNumeral r) (fuel : Nat) :
    value? (fuel + 1) ((toString n).toList.map some ++ r) = some (.number (.integer n), r) := by
  rw [Int.toString_eq_repr, Int.repr_eq_if]
  by_cases hpos : 0 ≤ n
  · obtain ⟨n, rfl⟩ := Int.eq_ofNat_of_zero_le hpos
    have hlt : n < UInt64.size := by have := hn.2; unfold UInt64.size; omega
    obtain ⟨htoken, -⟩ := token?_toDigits n hr
    obtain ⟨d, rest, heq, hd⟩ := exists_eq_cons_of_digits (Nat.toDigits_ne_nil (n := n) (b := 10))
      (fun c hc => isDigit_of_mem_toDigits hc) r
    rw [if_pos hpos, Int.toNat_natCast, Nat.toList_repr]
    rw [heq] at htoken ⊢
    rw [value?_of_numeral_start (.inr hd), htoken]
    simp [Token.value?, gather_toDigits hlt]
  · obtain ⟨k, rfl⟩ := Int.exists_eq_neg_ofNat (Int.le_of_lt (Int.not_le.1 hpos))
    have hle : k ≤ 9223372036854775808 := by have := hn.1; omega
    have hlt : k < UInt64.size := Nat.lt_of_le_of_lt hle (by decide)
    have hne : k ≠ 0 := by omega
    obtain ⟨-, htoken⟩ := token?_toDigits k hr
    rw [if_neg hpos, Int.neg_neg, Int.toNat_natCast, String.toList_append, Nat.toList_repr]
    show value? (fuel + 1) (some '-' :: ((Nat.toDigits 10 k).map some ++ r)) = _
    rw [value?_of_numeral_start (.inl rfl), htoken]
    simp [Token.value?, gather_toDigits hlt, hne, hle]

/-! ## Values -/

/-- A value that is read back: without doubles and unreadable parts, and with integers that a number can be. -/
inductive Plain : Json → Prop
  | null : Plain .null
  | bool (b : Bool) : Plain (.bool b)
  | integer {n : Int} (hn : IsInteger n) : Plain (.int n)
  | string (s : String) : Plain (.string s)
  | array {items : List Json} (h : ∀ item ∈ items, Plain item) : Plain (.array items)
  | object {members : List (String × Json)} (h : ∀ member ∈ members, Plain member.2) : Plain (.object members)

/-- A value is read back, whatever follows it that does not go on a numeral, with as much fuel as it has characters. -/
structure ReadBack (j : Json) : Prop where
  length_lt : ∀ tail, tail.length < (j.write tail).length
  value? : ∀ tail, Begins EndsNumeral (tail.map some) → ∀ fuel, (j.write tail).length ≤ fuel + tail.length →
    Json.value? fuel ((j.write tail).map some) = some (j, tail.map some)

theorem ReadBack.length_lt_member {j : Json} (h : ReadBack j) (name : String) (tail : List Char) :
    tail.length < (writeString name (':' :: j.write tail)).length := by
  have hlt := h.length_lt tail
  simp only [writeString, List.length_cons, List.length_append]
  omega

/-- A value that takes some of the text leaves fuel behind a first step. -/
theorem ReadBack.of_succ {j : Json} (hlt : ∀ tail, tail.length < (j.write tail).length)
    (h : ∀ tail, Begins EndsNumeral (tail.map some) → ∀ fuel, (j.write tail).length ≤ fuel + 1 + tail.length →
      Json.value? (fuel + 1) ((j.write tail).map some) = some (j, tail.map some)) : ReadBack j where
  length_lt := hlt
  value? tail htail := forall_fuel_of_succ (hlt tail) (h tail htail)

theorem readBack_word {j : Json} (word : List Char) (hne : word ≠ []) (hwrite : ∀ tail, j.write tail = word ++ tail)
    (hvalue : ∀ fuel t, Begins EndsNumeral t → Json.value? (fuel + 1) (word.map some ++ t) = some (j, t)) :
    ReadBack j := by
  refine .of_succ (fun tail => ?_) fun tail htail fuel _ => ?_
  · have hpos := List.length_pos_iff.2 hne
    rw [hwrite, List.length_append]
    omega
  · rw [hwrite, List.map_append]
    exact hvalue fuel _ htail

theorem readBack_integer {n : Int} (hn : IsInteger n) : ReadBack (.int n) := by
  refine readBack_word (toString n).toList ?_ (fun tail => ?_) fun fuel t ht => value?_integer hn ht fuel
  · rw [Int.toString_eq_repr, Int.repr_eq_if]
    split
    · rw [Nat.toList_repr]
      exact Nat.toDigits_ne_nil
    · rw [String.toList_append]
      exact List.cons_ne_nil _ _
  · rw [Json.int, write]
    rfl

theorem readBack_string (s : String) : ReadBack (.string s) := by
  have hwrite : ∀ tail, (Json.string s).write tail = '"' :: (s.toList.flatMap escape ++ '"' :: tail) := fun tail => by
    rw [write, writeString]
  have hlength := length_le_length_flatMap_escape s.toList
  refine .of_succ (fun tail => ?_) fun tail _ fuel hfuel => ?_
  · rw [hwrite]
    simp only [List.length_cons, List.length_append]
    omega
  · rw [hwrite] at hfuel ⊢
    simp only [List.length_cons, List.length_append] at hfuel
    simp only [List.map_cons, List.map_append]
    show (string? fuel _).map _ = _
    rw [string?_written s.toList (tail.map some) fuel (by omega)]
    simp only [Option.map_some, textOf?_map_some, String.ofList_toList, Option.getD_some]

/-! ### Items and members -/

/-- What is read as items makes an array. -/
theorem value?_of_items? {fuel : Nat} {t r : Glyphs} {items : List Json} (h : items? fuel t = some (items, r)) :
    Json.value? (fuel + 1) (some '[' :: t) = some (.array items, r) := by
  obtain ⟨c, rest, hbegin, hc⟩ := (derives_of_items? fuel h).items_begin
  rw [value?_array]
  split
  · next hclose =>
    rw [hbegin] at hclose
    cases hclose
    exact absurd rfl hc
  · rw [items?_skipBlanks, h]
    rfl

/-- What is read as members makes an object, if their names are there. -/
theorem value?_of_members? {fuel : Nat} {t r : Glyphs} {members : List (Option String × Json)}
    (h : members? fuel t = some (members, r)) :
    Json.value? (fuel + 1) (some '{' :: t) = some (ofMembers members, r) := by
  obtain ⟨rest, hbegin⟩ := (derives_of_members? fuel h).members_begin
  rw [value?_object]
  split
  · next hclose =>
    rw [hbegin] at hclose
    cases hclose
  · rw [members?_skipBlanks, h]
    rfl

theorem endsNumeral_of_mem (hc : c ∈ [',', ']', '}']) : EndsNumeral c := by
  simp only [List.mem_cons, List.not_mem_nil, or_false] at hc
  rcases hc with rfl | rfl | rfl <;> decide

/-- What stands behind an item: the closing bracket, or a comma and the other items. -/
theorem writeItems_false (items : List Json) (tail : List Char) : writeItems false items (']' :: tail) =
    match items with
    | [] => ']' :: tail
    | item :: rest => ',' :: writeItems true (item :: rest) (']' :: tail) := by
  cases items with
  | nil => rw [writeItems]
  | cons item rest =>
    simp only [writeItems]
    rfl

theorem length_le_writeItems {items : List Json} (h : ∀ item ∈ items, ReadBack item) (first : Bool) (tail : List Char) :
    tail.length ≤ (writeItems first items tail).length := by
  induction items generalizing first with
  | nil => exact Nat.le_of_eq (by rw [writeItems])
  | cons item rest ih =>
    have hitem := (h item List.mem_cons_self).length_lt (writeItems false rest tail)
    have hrest := ih (fun i hi => h i (List.mem_cons_of_mem _ hi)) false
    rw [writeItems, List.length_append]
    omega

/-- Items are read back, with the closing bracket. -/
theorem items?_written {item : Json} {rest : List Json} (h : ∀ i ∈ item :: rest, ReadBack i) (tail : List Char) :
    ∀ fuel, (writeItems true (item :: rest) (']' :: tail)).length ≤ fuel + tail.length →
      items? fuel ((writeItems true (item :: rest) (']' :: tail)).map some) = some (item :: rest, tail.map some) := by
  induction rest generalizing item with
  | nil =>
    have hitem := h item List.mem_cons_self
    have hwrite : writeItems true [item] (']' :: tail) = item.write (']' :: tail) := by
      rw [writeItems, writeItems]
      rfl
    rw [hwrite]
    have hlt := hitem.length_lt (']' :: tail)
    refine forall_fuel_of_succ (Nat.lt_of_succ_lt hlt) fun fuel hfuel => ?_
    have hvalue := hitem.value? (']' :: tail) (begins_cons (endsNumeral_of_mem (by simp)) _) fuel
      (by rw [List.length_cons]; omega)
    rw [items?, hvalue]
    rfl
  | cons next rest ih =>
    have hitem := h item List.mem_cons_self
    have hnext := ih fun i hi => h i (List.mem_cons_of_mem _ hi)
    have hwrite : writeItems true (item :: next :: rest) (']' :: tail) =
        item.write (',' :: writeItems true (next :: rest) (']' :: tail)) := by
      rw [writeItems, writeItems_false]
      rfl
    rw [hwrite]
    have hlt := hitem.length_lt (',' :: writeItems true (next :: rest) (']' :: tail))
    have hle := length_le_writeItems (fun i hi => h i (List.mem_cons_of_mem _ hi)) true (']' :: tail)
    rw [List.length_cons] at hlt hle
    refine forall_fuel_of_succ (by omega) fun fuel hfuel => ?_
    have hvalue := hitem.value? (',' :: writeItems true (next :: rest) (']' :: tail))
      (begins_cons (endsNumeral_of_mem (by simp)) _) fuel (by rw [List.length_cons]; omega)
    have hitems := hnext fuel (by omega)
    rw [items?, hvalue]
    show (items? fuel _).map _ = _
    rw [hitems]
    rfl

theorem readBack_array {items : List Json} (h : ∀ item ∈ items, ReadBack item) : ReadBack (.array items) := by
  have hwrite : ∀ tail, (Json.array items).write tail = '[' :: writeItems true items (']' :: tail) := fun tail => by
    rw [write]
  have hle := length_le_writeItems h true
  refine .of_succ (fun tail => ?_) fun tail _ fuel hfuel => ?_
  · have hle := hle (']' :: tail)
    rw [List.length_cons] at hle
    rw [hwrite, List.length_cons]
    omega
  · rw [hwrite] at hfuel ⊢
    cases items with
    | nil =>
      rw [writeItems]
      rfl
    | cons item rest =>
      rw [List.length_cons] at hfuel
      exact value?_of_items? (items?_written h tail fuel (by omega))

/-- What a member that has been read and the text behind it make. -/
def afterMember (fuel : Nat) (member : Option String × Json) : Glyphs → Option (List (Option String × Json) × Glyphs)
  | some ',' :: rest => (members? fuel rest).map fun p => (member :: p.1, p.2)
  | some '}' :: rest => some ([member], rest)
  | _ => none

theorem members?_cons (name : String) {value : Json} (h : ReadBack value) (behind : List Char)
    (hbehind : Begins EndsNumeral (behind.map some)) (fuel : Nat)
    (hfuel : (writeString name (':' :: value.write behind)).length ≤ fuel + 1 + behind.length) :
    members? (fuel + 1) ((writeString name (':' :: value.write behind)).map some) =
      afterMember fuel (some name, value) (skipBlanks (behind.map some)) := by
  have hlength := length_le_length_flatMap_escape name.toList
  have hlt := h.length_lt behind
  simp only [writeString, List.length_cons, List.length_append] at hfuel
  have hname := string?_written name.toList (some ':' :: (value.write behind).map some) fuel (by omega)
  have hvalue := h.value? behind hbehind fuel (by omega)
  simp only [writeString, List.map_cons, List.map_append]
  rw [members?, skipBlanks_of_not_blank (by decide)]
  have hcolon : ¬Grammar.IsBlank ':' := by decide
  simp only [hname, textOf?_map_some, String.ofList_toList, skipBlanks_of_not_blank hcolon, hvalue]
  rfl

/-- What stands behind a member: the closing brace, or a comma and the other members. -/
theorem writeMembers_false (members : List (String × Json)) (tail : List Char) :
    writeMembers false members ('}' :: tail) =
      match members with
      | [] => '}' :: tail
      | member :: rest => ',' :: writeMembers true (member :: rest) ('}' :: tail) := by
  cases members with
  | nil => rw [writeMembers]
  | cons member rest =>
    simp only [writeMembers]
    rfl

theorem length_le_writeMembers {members : List (String × Json)} (h : ∀ member ∈ members, ReadBack member.2)
    (first : Bool) (tail : List Char) : tail.length ≤ (writeMembers first members tail).length := by
  induction members generalizing first with
  | nil => exact Nat.le_of_eq (by rw [writeMembers])
  | cons member rest ih =>
    have hmember := (h member List.mem_cons_self).length_lt_member member.1 (writeMembers false rest tail)
    have hrest := ih (fun m hm => h m (List.mem_cons_of_mem _ hm)) false
    rw [writeMembers, List.length_append]
    omega

/-- Members are read back, with the closing brace. -/
theorem members?_written {member : String × Json} {rest : List (String × Json)}
    (h : ∀ m ∈ member :: rest, ReadBack m.2) (tail : List Char) :
    ∀ fuel, (writeMembers true (member :: rest) ('}' :: tail)).length ≤ fuel + tail.length →
      members? fuel ((writeMembers true (member :: rest) ('}' :: tail)).map some) =
        some ((member :: rest).map fun m => (some m.1, m.2), tail.map some) := by
  induction rest generalizing member with
  | nil =>
    have hmember := h member List.mem_cons_self
    have hwrite : writeMembers true [member] ('}' :: tail) =
        writeString member.1 (':' :: member.2.write ('}' :: tail)) := by
      simp only [writeMembers]
      rfl
    rw [hwrite]
    have hlt := hmember.length_lt_member member.1 ('}' :: tail)
    refine forall_fuel_of_succ (Nat.lt_of_succ_lt hlt) fun fuel hfuel => ?_
    exact members?_cons member.1 hmember ('}' :: tail) (begins_cons (endsNumeral_of_mem (by simp)) _) fuel
      (by rw [List.length_cons]; omega)
  | cons next rest ih =>
    have hmember := h member List.mem_cons_self
    have hnext := ih fun m hm => h m (List.mem_cons_of_mem _ hm)
    have hwrite : writeMembers true (member :: next :: rest) ('}' :: tail) =
        writeString member.1 (':' :: member.2.write (',' :: writeMembers true (next :: rest) ('}' :: tail))) := by
      rw [writeMembers, writeMembers_false]
      rfl
    rw [hwrite]
    have hlt := hmember.length_lt_member member.1 (',' :: writeMembers true (next :: rest) ('}' :: tail))
    have hle := length_le_writeMembers (fun m hm => h m (List.mem_cons_of_mem _ hm)) true ('}' :: tail)
    rw [List.length_cons] at hlt hle
    refine forall_fuel_of_succ (by omega) fun fuel hfuel => ?_
    have hread := members?_cons member.1 hmember (',' :: writeMembers true (next :: rest) ('}' :: tail))
      (begins_cons (endsNumeral_of_mem (by simp)) _) fuel (by rw [List.length_cons]; omega)
    have hmembers := hnext fuel (by omega)
    refine hread.trans ?_
    show (members? fuel _).map _ = _
    rw [hmembers]
    rfl

theorem ofMembers_map_some (members : List (String × Json)) :
    ofMembers (members.map fun m => (some m.1, m.2)) = .object members := by
  have hmapM : (members.map fun m => (some m.1, m.2)).mapM (fun m : Option String × Json => m.1.map (·, m.2)) =
      some members := by
    induction members with
    | nil => rfl
    | cons m rest ih =>
      rw [List.map_cons, List.mapM_cons, ih]
      rfl
  unfold ofMembers
  simp only [hmapM]

theorem readBack_object {members : List (String × Json)} (h : ∀ member ∈ members, ReadBack member.2) :
    ReadBack (.object members) := by
  have hwrite : ∀ tail, (Json.object members).write tail = '{' :: writeMembers true members ('}' :: tail) :=
    fun tail => by rw [write]
  have hle := length_le_writeMembers h true
  refine .of_succ (fun tail => ?_) fun tail _ fuel hfuel => ?_
  · have hle := hle ('}' :: tail)
    rw [List.length_cons] at hle
    rw [hwrite, List.length_cons]
    omega
  · rw [hwrite] at hfuel ⊢
    cases members with
    | nil =>
      rw [writeMembers]
      rfl
    | cons member rest =>
      rw [List.length_cons] at hfuel
      refine (value?_of_members? (members?_written h tail fuel (by omega))).trans ?_
      rw [ofMembers_map_some]

/-! ## Whole texts -/

variable {j : Json}

theorem Plain.readBack (h : Plain j) : ReadBack j := by
  induction h with
  | null =>
    exact readBack_word ['n', 'u', 'l', 'l'] (List.cons_ne_nil _ _) (fun _ => by rw [write]; rfl) fun _ _ _ => rfl
  | bool b =>
    cases b with
    | true =>
      exact readBack_word ['t', 'r', 'u', 'e'] (List.cons_ne_nil _ _) (fun _ => by rw [write]; rfl) fun _ _ _ => rfl
    | false =>
      exact readBack_word ['f', 'a', 'l', 's', 'e'] (List.cons_ne_nil _ _) (fun _ => by rw [write]; rfl)
        fun _ _ _ => rfl
  | integer hn => exact readBack_integer hn
  | string s => exact readBack_string s
  | array _ ih => exact readBack_array ih
  | object _ ih => exact readBack_object ih

/-- The text of a value is read as the value, and so are its bytes. -/
theorem ReadBack.parse?_render (h : ReadBack j) : parse? j.render = some j ∧ parseBytes? (Text.encode j.render) = some j := by
  have hvalue := h.value? [] (fun c t heq => by cases heq) ((j.write []).length + 1) (by omega)
  have hread : parse? j.render = some j := by
    unfold parse? read? Text.glyphs render
    rw [String.toList_ofList, List.length_map, hvalue]
    rfl
  refine ⟨hread, ?_⟩
  unfold parseBytes?
  rw [Text.decode_encode]
  exact hread

theorem parse?_render (h : Plain j) : parse? j.render = some j ∧ parseBytes? (Text.encode j.render) = some j :=
  h.readBack.parse?_render

end MailReconciler.Json
