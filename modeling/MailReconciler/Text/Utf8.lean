/-
Bytes read as characters. A stretch of bytes that belongs to no character is kept as one fault, so that a
reader may refuse it, step over it or replace it.
-/

namespace MailReconciler.Text

/-- Characters read from bytes; `none` stands for a stretch of bytes that belongs to no character. -/
abbrev Glyphs := List (Option Char)

/-- The glyphs of a text. -/
def glyphs (text : String) : Glyphs := text.toList.map some

/-! ## Decoding -/

/-- The value of a continuation byte between two bounds. -/
def continuation? (low high : Nat) (b : UInt8) : Option Nat :=
  if low ≤ b.toNat ∧ b.toNat ≤ high then some (b.toNat % 64) else none

/-- How many continuation bytes follow a leading byte, the bits that it carries and the bounds of the byte
behind it. -/
def leading? (b : UInt8) : Option (Nat × Nat × Nat × Nat) :=
  let n := b.toNat
  if 0xC2 ≤ n ∧ n ≤ 0xDF then some (1, n % 32, 0x80, 0xBF)
  else if n = 0xE0 then some (2, 0, 0xA0, 0xBF)
  else if n = 0xED then some (2, 13, 0x80, 0x9F)
  else if 0xE1 ≤ n ∧ n ≤ 0xEF then some (2, n % 16, 0x80, 0xBF)
  else if n = 0xF0 then some (3, 0, 0x90, 0xBF)
  else if n = 0xF4 then some (3, 4, 0x80, 0x8F)
  else if 0xF1 ≤ n ∧ n ≤ 0xF3 then some (3, n % 8, 0x80, 0xBF)
  else none

/-- Decodes bytes. `pending` holds the number of bytes that the character begun still needs, its bits so far and the
bounds of its next byte; a byte outside them ends the stretch as a fault and is looked at again. -/
def decodeFrom (pending : Option (Nat × Nat × Nat × Nat)) : List UInt8 → Glyphs
  | [] => if pending.isSome then [none] else []
  | b :: rest =>
    let fresh : Glyphs :=
      if b.toNat < 0x80 then some (Char.ofNat b.toNat) :: decodeFrom none rest
      else match leading? b with
        | some start => decodeFrom (some start) rest
        | none => none :: decodeFrom none rest
    match pending with
    | none => fresh
    | some (needed, bits, low, high) =>
      match continuation? low high b with
      | none => none :: fresh
      | some value =>
        let bits := bits * 64 + value
        if needed ≤ 1 then some (Char.ofNat bits) :: decodeFrom none rest
        else decodeFrom (some (needed - 1, bits, 0x80, 0xBF)) rest

/-- The glyphs of some bytes. -/
def decode (bytes : List UInt8) : Glyphs := decodeFrom none bytes

/-- The text of some bytes, when every byte belongs to a character. -/
def decodeStrict? (bytes : List UInt8) : Option String :=
  ((decode bytes).mapM id).map String.ofList

/-- The text of some bytes, with the replacement character for every fault. -/
def decodeLossy (bytes : List UInt8) : String :=
  String.ofList ((decode bytes).map (·.getD '\uFFFD'))

/-- The bytes of a text. -/
def encode (text : String) : List UInt8 := text.toUTF8.toList

end MailReconciler.Text
