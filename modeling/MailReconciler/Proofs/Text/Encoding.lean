/-
Texts as bytes, and back. Decoding undoes encoding, one character after the other: a leading byte tells how many bytes
follow and between which bounds the next one lies, and the bytes of a character keep to what its leading byte tells.
-/
import MailReconciler.Text.Utf8

namespace MailReconciler.Text

variable {c : Char} {b : UInt8} {rest : List UInt8}

/-! ## Bytes of a text -/

/-- The bytes that are left are put behind those taken already, of which the latest stands first. -/
theorem toList_loop (bytes : ByteArray) : ∀ (left past taken : List UInt8), bytes.data.toList = past ++ left →
    ByteArray.toList.loop bytes past.length taken = taken.reverse ++ left
  | [], past, taken, h => by
    have hsize : bytes.size = past.length := by
      rw [ByteArray.size, ← Array.length_toList, h, List.append_nil]
    rw [ByteArray.toList.loop, if_neg (by omega), List.append_nil]
  | b :: left, past, taken, h => by
    have hsize : bytes.size = past.length + (left.length + 1) := by
      rw [ByteArray.size, ← Array.length_toList, h, List.length_append, List.length_cons]
    have hget : bytes.get! past.length = b := by
      have hb : bytes.data.toList[past.length]? = some b := by
        rw [h, List.getElem?_append_right (Nat.le_refl _), Nat.sub_self]
        rfl
      show bytes.data[past.length]! = b
      rw [getElem!_def, ← Array.getElem?_toList, hb]
    have hrest := toList_loop bytes left (past ++ [b]) (b :: taken) (by rw [h, List.append_assoc]; rfl)
    rw [List.length_append, List.length_singleton] at hrest
    rw [ByteArray.toList.loop, if_pos (by omega), hget, hrest, List.reverse_cons, List.append_assoc]
    rfl

/-- The bytes of a text are those of its characters. -/
theorem encode_ofList (chars : List Char) : encode (String.ofList chars) = chars.flatMap String.utf8EncodeChar := by
  unfold encode
  have hbytes : (chars.flatMap String.utf8EncodeChar).toByteArray.data.toList =
      [] ++ chars.flatMap String.utf8EncodeChar := by
    rw [List.data_toByteArray, List.nil_append]
  rw [String.toUTF8_eq_toByteArray, String.toByteArray_ofList, ByteArray.toList, List.utf8Encode]
  exact toList_loop _ _ [] [] hbytes

theorem encode_eq (text : String) : encode text = text.toList.flatMap String.utf8EncodeChar := by
  rw [← encode_ofList, String.ofList_toList]

/-! ## Decoding byte by byte -/

theorem decodeFrom_plain (hb : b.toNat < 0x80) :
    decodeFrom none (b :: rest) = some (Char.ofNat b.toNat) :: decodeFrom none rest := by
  rw [decodeFrom]
  exact if_pos hb

theorem decodeFrom_leading {start : Nat × Nat × Nat × Nat} (hb : 0x80 ≤ b.toNat) (hstart : leading? b = some start) :
    decodeFrom none (b :: rest) = decodeFrom (some start) rest := by
  rw [decodeFrom]
  simp only [if_neg (Nat.not_lt.2 hb), hstart]

theorem decodeFrom_continuing {needed bits low high : Nat} (hneeded : 1 < needed) (hlow : low ≤ b.toNat)
    (hhigh : b.toNat ≤ high) : decodeFrom (some (needed, bits, low, high)) (b :: rest) =
      decodeFrom (some (needed - 1, bits * 64 + b.toNat % 64, 0x80, 0xBF)) rest := by
  rw [decodeFrom]
  simp only [continuation?, if_pos (And.intro hlow hhigh), if_neg (Nat.not_le.2 hneeded)]

theorem decodeFrom_last {bits low high : Nat} (hlow : low ≤ b.toNat) (hhigh : b.toNat ≤ high) :
    decodeFrom (some (1, bits, low, high)) (b :: rest) =
      some (Char.ofNat (bits * 64 + b.toNat % 64)) :: decodeFrom none rest := by
  rw [decodeFrom]
  simp only [continuation?, if_pos (And.intro hlow hhigh), if_pos (Nat.le_refl 1)]

/-! ## Leading bytes -/

theorem toNat_ofNat_of_lt {n : Nat} (h : n < 256) : (UInt8.ofNat n).toNat = n := by
  rw [UInt8.toNat_ofNat']
  exact Nat.mod_eq_of_lt h

theorem leading?_two {n : Nat} (hlow : 2 ≤ n) (hhigh : n < 32) :
    leading? (UInt8.ofNat (n + 192)) = some (1, n, 0x80, 0xBF) := by
  have hmod : (n + 192) % 32 = n := by omega
  unfold leading?
  rw [toNat_ofNat_of_lt (by omega)]
  simp only [if_pos (show 0xC2 ≤ n + 192 ∧ n + 192 ≤ 0xDF by omega), hmod]

/-- The bounds of the second of three bytes leave out what fits into two, and halves of surrogate pairs. -/
theorem exists_leading?_three {n second : Nat} (hn : n < 16) (hlow : 0x80 ≤ second) (hhigh : second ≤ 0xBF)
    (hshort : n = 0 → 0xA0 ≤ second) (hhalf : n = 13 → second ≤ 0x9F) : ∃ low high,
      leading? (UInt8.ofNat (n + 224)) = some (2, n, low, high) ∧ low ≤ second ∧ second ≤ high := by
  unfold leading?
  rw [toNat_ofNat_of_lt (by omega)]
  simp only [if_neg (show ¬(0xC2 ≤ n + 224 ∧ n + 224 ≤ 0xDF) by omega)]
  by_cases hzero : n = 0
  · subst hzero
    exact ⟨0xA0, 0xBF, rfl, hshort rfl, hhigh⟩
  · simp only [if_neg (show ¬n + 224 = 0xE0 by omega)]
    by_cases hthirteen : n = 13
    · subst hthirteen
      exact ⟨0x80, 0x9F, rfl, hlow, hhalf rfl⟩
    · have hmod : (n + 224) % 16 = n := by omega
      simp only [if_neg (show ¬n + 224 = 0xED by omega), if_pos (show 0xE1 ≤ n + 224 ∧ n + 224 ≤ 0xEF by omega), hmod]
      exact ⟨0x80, 0xBF, rfl, hlow, hhigh⟩

/-- The bounds of the second of four bytes leave out what fits into three, and what is no character. -/
theorem exists_leading?_four {n second : Nat} (hn : n ≤ 4) (hlow : 0x80 ≤ second) (hhigh : second ≤ 0xBF)
    (hshort : n = 0 → 0x90 ≤ second) (hlarge : n = 4 → second ≤ 0x8F) : ∃ low high,
      leading? (UInt8.ofNat (n + 240)) = some (3, n, low, high) ∧ low ≤ second ∧ second ≤ high := by
  match n, hn with
  | 0, _ => exact ⟨0x90, 0xBF, by decide, hshort rfl, hhigh⟩
  | 1, _ | 2, _ | 3, _ => exact ⟨0x80, 0xBF, by decide, hlow, hhigh⟩
  | 4, _ => exact ⟨0x80, 0x8F, by decide, hlow, hlarge rfl⟩

/-! ## Decoding character by character -/

theorem toNat_continuation (n : Nat) : (UInt8.ofNat (n % 64 + 128)).toNat = n % 64 + 128 :=
  toNat_ofNat_of_lt (by omega)

theorem decodeFrom_two {v : Nat} (hlow : 0x80 ≤ v) (hhigh : v < 0x800) :
    decodeFrom none (UInt8.ofNat (v / 64 % 32 + 192) :: UInt8.ofNat (v % 64 + 128) :: rest) =
      some (Char.ofNat v) :: decodeFrom none rest := by
  have hlead : v / 64 % 32 = v / 64 := by omega
  have hvalue : v / 64 * 64 + (v % 64 + 128) % 64 = v := by omega
  have hlast := toNat_continuation v
  rw [hlead, decodeFrom_leading _ (leading?_two (by omega) (by omega)), decodeFrom_last (by omega) (by omega), hlast,
    hvalue]
  rw [toNat_ofNat_of_lt (by omega)]
  omega

theorem decodeFrom_three {v : Nat} (hlow : 0x800 ≤ v) (hhigh : v < 0x10000) (hhalf : v < 0xD800 ∨ 0xDFFF < v) :
    decodeFrom none (UInt8.ofNat (v / 4096 % 16 + 224) :: UInt8.ofNat (v / 64 % 64 + 128) ::
      UInt8.ofNat (v % 64 + 128) :: rest) = some (Char.ofNat v) :: decodeFrom none rest := by
  have hlead : v / 4096 % 16 = v / 4096 := by omega
  have hvalue : (v / 4096 * 64 + (v / 64 % 64 + 128) % 64) * 64 + (v % 64 + 128) % 64 = v := by omega
  have hsecond := toNat_continuation (v / 64)
  have hlast := toNat_continuation v
  obtain ⟨low, high, hleading, hmin, hmax⟩ := @exists_leading?_three (v / 4096) (v / 64 % 64 + 128)
    (by omega) (by omega) (by omega) (by omega) (by omega)
  rw [hlead, decodeFrom_leading _ hleading, decodeFrom_continuing (by omega) (by omega) (by omega),
    decodeFrom_last (by omega) (by omega), hsecond, hlast, hvalue]
  rw [toNat_ofNat_of_lt (by omega)]
  omega

theorem decodeFrom_four {v : Nat} (hlow : 0x10000 ≤ v) (hhigh : v < 0x110000) :
    decodeFrom none (UInt8.ofNat (v / 262144 % 8 + 240) :: UInt8.ofNat (v / 4096 % 64 + 128) ::
      UInt8.ofNat (v / 64 % 64 + 128) :: UInt8.ofNat (v % 64 + 128) :: rest) =
      some (Char.ofNat v) :: decodeFrom none rest := by
  have hlead : v / 262144 % 8 = v / 262144 := by omega
  have hvalue : ((v / 262144 * 64 + (v / 4096 % 64 + 128) % 64) * 64 + (v / 64 % 64 + 128) % 64) * 64 +
      (v % 64 + 128) % 64 = v := by omega
  have hsecond := toNat_continuation (v / 4096)
  have hthird := toNat_continuation (v / 64)
  have hlast := toNat_continuation v
  obtain ⟨low, high, hleading, hmin, hmax⟩ := @exists_leading?_four (v / 262144) (v / 4096 % 64 + 128)
    (by omega) (by omega) (by omega) (by omega) (by omega)
  rw [hlead, decodeFrom_leading _ hleading, decodeFrom_continuing (by omega) (by omega) (by omega),
    decodeFrom_continuing (by omega) (by omega) (by omega), decodeFrom_last (by omega) (by omega), hsecond, hthird,
    hlast, hvalue]
  rw [toNat_ofNat_of_lt (by omega)]
  omega

theorem decodeFrom_utf8EncodeChar (c : Char) (rest : List UInt8) :
    decodeFrom none (String.utf8EncodeChar c ++ rest) = some c :: decodeFrom none rest := by
  have hvalid : c.val.toNat < 0xD800 ∨ 0xDFFF < c.val.toNat ∧ c.val.toNat < 0x110000 := c.valid
  have hchar : Char.ofNat c.val.toNat = c := Char.ofNat_toNat c
  rw [String.utf8EncodeChar.eq_1]
  generalize c.val.toNat = v at hvalid hchar ⊢
  rw [← hchar]
  by_cases h₁ : v ≤ 127
  · have hb : (UInt8.ofNat v).toNat = v := toNat_ofNat_of_lt (by omega)
    rw [if_pos h₁, List.singleton_append, decodeFrom_plain (by omega), hb]
  rw [if_neg h₁]
  by_cases h₂ : v ≤ 2047
  · rw [if_pos h₂]
    exact decodeFrom_two (by omega) (by omega)
  rw [if_neg h₂]
  by_cases h₃ : v ≤ 65535
  · rw [if_pos h₃]
    exact decodeFrom_three (by omega) (by omega) (by omega)
  · rw [if_neg h₃]
    exact decodeFrom_four (by omega) (by omega)

theorem decode_encode (text : String) : decode (encode text) = glyphs text := by
  unfold decode glyphs
  rw [encode_eq]
  induction text.toList with
  | nil => rfl
  | cons c chars ih => rw [List.flatMap_cons, decodeFrom_utf8EncodeChar, ih, List.map_cons]

theorem mapM_id_map_some (chars : List Char) : (chars.map some).mapM id = some chars := by
  induction chars with
  | nil => rfl
  | cons c chars ih => rw [List.map_cons, List.mapM_cons, ih]; rfl

/-- A text is read back from its bytes. -/
theorem decodeStrict?_encode (text : String) : decodeStrict? (encode text) = some text := by
  unfold decodeStrict?
  rw [decode_encode, glyphs, mapM_id_map_some, Option.map_some, String.ofList_toList]

end MailReconciler.Text
