/-
Percent-encoding: bytes outside a set stand as a percent sign and two hexadecimal digits. Path segments and form bodies
are written with it.
-/
import MailReconciler.Text.Utf8

namespace MailReconciler.Text

/-! ## Writing -/

/-- The upper-case hexadecimal digit of a number below sixteen. -/
def upperHexDigit (n : Nat) : Char := (Nat.digitChar n).toUpper

/-- A byte as a percent sign and two digits. -/
def percentByte (b : UInt8) : List Char := ['%', upperHexDigit (b.toNat / 16), upperHexDigit (b.toNat % 16)]

/-- The bytes of a character, each percent-encoded. -/
def percentChar (c : Char) : List Char := (encode (String.singleton c)).flatMap percentByte

/-- Percent-encodes the characters of a text that are not kept. -/
def percentEncode (keeps : Char → Bool) (text : String) : String :=
  String.ofList (text.toList.flatMap fun c => if keeps c then [c] else percentChar c)

/-- ASCII letters and digits. -/
def isAlphanumeric (c : Char) : Bool := c.isAlphanum

/-- The characters that stand for themselves in a segment of a path. -/
def isUnreserved (c : Char) : Bool := isAlphanumeric c || c = '-' || c = '_' || c = '.' || c = '~'

/-- A text as a segment of a path. -/
def segment (text : String) : String := percentEncode isUnreserved text

/-! ## Forms -/

/-- A character of a name or value of a form. -/
def formChar (c : Char) : List Char :=
  if c = ' ' then ['+']
  else if isAlphanumeric c || c = '*' || c = '-' || c = '.' || c = '_' then [c]
  else percentChar c

/-- A name or value of a form. -/
def formText (text : String) : String := String.ofList (text.toList.flatMap formChar)

/-- The pairs of a form as one text. -/
def formBody (pairs : List (String × String)) : String :=
  "&".intercalate (pairs.map fun (name, value) => formText name ++ "=" ++ formText value)

/-! ## Reading -/

/-- The value of a hexadecimal digit of either case, given as a byte. -/
def hexByte? (b : UInt8) : Option Nat :=
  let n := b.toNat
  if 0x30 ≤ n ∧ n ≤ 0x39 then some (n - 0x30)
  else if 0x61 ≤ n ∧ n ≤ 0x66 then some (n - 0x57)
  else if 0x41 ≤ n ∧ n ≤ 0x46 then some (n - 0x37)
  else none

/-- Decodes percent-encoded bytes; a percent sign without two digits behind it stays. -/
def percentDecode : List UInt8 → List UInt8
  | [] => []
  | [a] => [a]
  | [a, b] => [a, b]
  | a :: b :: c :: rest =>
    if a = 0x25 then
      match hexByte? b, hexByte? c with
      | some high, some low => UInt8.ofNat (high * 16 + low) :: percentDecode rest
      | _, _ => a :: percentDecode (b :: c :: rest)
    else a :: percentDecode (b :: c :: rest)
termination_by bytes => bytes.length

end MailReconciler.Text
