/-
Segments of paths. Whatever text is written as a segment, no slash stands in it, and percent-decoding gives the text
back: so a path that is cut at its slashes shows the texts that it was made of.
-/
import MailReconciler.Proofs.Text.Encoding
import MailReconciler.Text.Percent
import MailReconciler.Text.Split

namespace MailReconciler.Text

variable {c : Char} {rest : List UInt8}

/-! ## Percent signs -/

theorem utf8EncodeChar_of_lt (hc : c.toNat < 0x80) : String.utf8EncodeChar c = [UInt8.ofNat c.toNat] := by
  rw [String.utf8EncodeChar.eq_1]
  exact if_pos (Nat.le_of_lt_succ hc)

/-- Only a percent sign begins something to decode. -/
theorem percentDecode_cons {b : UInt8} (hb : b ≠ 0x25) : percentDecode (b :: rest) = b :: percentDecode rest := by
  match rest with
  | [] => rw [percentDecode, percentDecode]
  | [_] => rw [percentDecode, percentDecode]
  | _ :: _ :: _ => rw [percentDecode, if_neg hb]

/-- A digit is read as the number that it was written for. -/
theorem hexByte?_upperHexDigit : ∀ n < 16, (upperHexDigit n).toNat < 0x80 ∧ upperHexDigit n ≠ '/' ∧
    hexByte? (UInt8.ofNat (upperHexDigit n).toNat) = some n := by
  decide

theorem percentDecode_percentByte (b : UInt8) (rest : List UInt8) :
    percentDecode ((percentByte b).flatMap String.utf8EncodeChar ++ rest) = b :: percentDecode rest := by
  have hb := b.toNat_lt
  obtain ⟨hhigh, -, hreadHigh⟩ := hexByte?_upperHexDigit (b.toNat / 16) (by omega)
  obtain ⟨hlow, -, hreadLow⟩ := hexByte?_upperHexDigit (b.toNat % 16) (by omega)
  have hbytes : (percentByte b).flatMap String.utf8EncodeChar = [0x25,
      UInt8.ofNat (upperHexDigit (b.toNat / 16)).toNat, UInt8.ofNat (upperHexDigit (b.toNat % 16)).toNat] := by
    simp only [percentByte, List.flatMap_cons, List.flatMap_nil, utf8EncodeChar_of_lt hhigh, utf8EncodeChar_of_lt hlow]
    rfl
  have hvalue : UInt8.ofNat (b.toNat / 16 * 16 + b.toNat % 16) = b := by
    rw [Nat.div_add_mod']
    exact UInt8.ofNat_toNat
  rw [hbytes]
  show percentDecode (0x25 :: _ :: _ :: rest) = _
  rw [percentDecode, if_pos rfl, hreadHigh, hreadLow]
  exact congrArg (· :: percentDecode rest) hvalue

theorem percentDecode_flatMap_percentByte (bytes rest : List UInt8) :
    percentDecode ((bytes.flatMap percentByte).flatMap String.utf8EncodeChar ++ rest) =
      bytes ++ percentDecode rest := by
  induction bytes with
  | nil => rfl
  | cons b bytes ih =>
    rw [List.flatMap_cons, List.flatMap_append, List.append_assoc, percentDecode_percentByte, ih, List.cons_append]

/-! ## Segments -/

theorem lt_of_isAlphanumeric (hc : isAlphanumeric c = true) : c.toNat < 0x80 := by
  have hranges : (decide ('A'.val ≤ c.val ∧ c.val ≤ 'Z'.val) ||
      decide ('a'.val ≤ c.val) && decide (c.val ≤ 'z'.val) ||
      decide ('0'.val ≤ c.val) && decide (c.val ≤ '9'.val)) = true := hc
  simp only [Bool.or_eq_true, Bool.and_eq_true, decide_eq_true_eq, UInt32.le_iff_toNat_le] at hranges
  show c.val.toNat < 0x80
  rcases hranges with (⟨-, hc⟩ | ⟨-, hc⟩) | ⟨-, hc⟩
  all_goals exact Nat.lt_of_le_of_lt hc (by decide)

theorem lt_of_isUnreserved (hc : isUnreserved c = true) : c.toNat < 0x80 := by
  unfold isUnreserved at hc
  simp only [Bool.or_eq_true, decide_eq_true_eq] at hc
  rcases hc with (((hc | rfl) | rfl) | rfl) | rfl
  · exact lt_of_isAlphanumeric hc
  all_goals decide

/-- A character as it stands in a segment. -/
def segmentChar (c : Char) : List Char := if isUnreserved c then [c] else percentChar c

theorem segment_eq (text : String) : segment text = String.ofList (text.toList.flatMap segmentChar) := rfl

theorem percentDecode_segmentChar (c : Char) (rest : List UInt8) :
    percentDecode ((segmentChar c).flatMap String.utf8EncodeChar ++ rest) =
      String.utf8EncodeChar c ++ percentDecode rest := by
  unfold segmentChar
  split
  · next hc =>
    have hlt := lt_of_isUnreserved hc
    have hpercent : UInt8.ofNat c.toNat ≠ 0x25 := by
      intro h
      have hvalue := congrArg UInt8.toNat h
      rw [toNat_ofNat_of_lt (by omega)] at hvalue
      have hc' : c = '%' := Char.toNat_inj.1 hvalue
      rw [hc'] at hc
      exact absurd hc (by decide)
    rw [List.flatMap_singleton, utf8EncodeChar_of_lt hlt, List.singleton_append, percentDecode_cons hpercent]
    rfl
  · have hbytes : encode (String.singleton c) = String.utf8EncodeChar c := by
      rw [encode_eq]
      simp
    rw [percentChar, hbytes]
    exact percentDecode_flatMap_percentByte _ _

/-- Percent-decoding a segment gives the bytes of its text. -/
theorem percentDecode_segment (text : String) : percentDecode (encode (segment text)) = encode text := by
  rw [segment_eq, encode_ofList, encode_eq]
  induction text.toList with
  | nil => rw [List.flatMap_nil, List.flatMap_nil, percentDecode]
  | cons c chars ih =>
    rw [List.flatMap_cons, List.flatMap_append, percentDecode_segmentChar, ih, List.flatMap_cons]

/-- The text that a segment was written for. -/
theorem decodeStrict?_segment (text : String) :
    decodeStrict? (percentDecode (encode (segment text))) = some text := by
  rw [percentDecode_segment, decodeStrict?_encode]

theorem slash_not_mem_segment (text : String) : '/' ∉ (segment text).toList := by
  rw [segment_eq, String.toList_ofList]
  intro h
  obtain ⟨c, -, hc⟩ := List.mem_flatMap.1 h
  unfold segmentChar at hc
  split at hc
  · next hkept =>
    rw [← List.mem_singleton.1 hc] at hkept
    exact absurd hkept (by decide)
  · obtain ⟨b, -, hb⟩ := List.mem_flatMap.1 hc
    have hlt := b.toNat_lt
    obtain ⟨-, hhigh, -⟩ := hexByte?_upperHexDigit (b.toNat / 16) (by omega)
    obtain ⟨-, hlow, -⟩ := hexByte?_upperHexDigit (b.toNat % 16) (by omega)
    simp only [percentByte, List.mem_cons, List.not_mem_nil, or_false] at hb
    rcases hb with hb | hb | hb
    · exact absurd hb (by decide)
    · exact hhigh hb.symm
    · exact hlow hb.symm

/-! ## Parts of a path -/

theorem exists_splitAt (separator : Char) (text : List Char) :
    ∃ part parts, splitAt separator text = part :: parts := by
  cases text with
  | nil => exact ⟨[], [], rfl⟩
  | cons c text =>
    rw [splitAt]
    split
    · exact ⟨_, _, rfl⟩
    · split
      · exact ⟨_, _, rfl⟩
      · exact ⟨_, _, rfl⟩

/-- A text is cut at each of its separators apart. -/
theorem splitAt_append (separator : Char) (left right : List Char) :
    splitAt separator (left ++ separator :: right) = splitAt separator left ++ splitAt separator right := by
  induction left with
  | nil =>
    obtain ⟨part, parts, h⟩ := exists_splitAt separator right
    show splitAt separator (separator :: right) = [] :: splitAt separator right
    rw [splitAt, h]
    exact if_pos rfl
  | cons c left ih =>
    obtain ⟨part, parts, h⟩ := exists_splitAt separator left
    rw [List.cons_append, splitAt, ih, splitAt, h]
    dsimp only [List.cons_append]
    split
    · rfl
    · rfl

theorem splitAt_of_not_mem {separator : Char} {text : List Char} (h : separator ∉ text) :
    splitAt separator text = [text] := by
  induction text with
  | nil => rfl
  | cons c text ih =>
    rw [List.mem_cons, not_or] at h
    rw [splitAt, ih h.2]
    exact if_neg (Ne.symm h.1)

end MailReconciler.Text
