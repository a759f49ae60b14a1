/-
Bytes in sixty-four characters: three bytes make four characters, and the last group is filled up.
-/
import MailReconciler.Text.Utf8

namespace MailReconciler.Text

/-- The character of a number below sixty-four. -/
def base64Char (n : Nat) : Char :=
  if n < 26 then Char.ofNat ('A'.toNat + n)
  else if n < 52 then Char.ofNat ('a'.toNat + (n - 26))
  else if n < 62 then Char.ofNat ('0'.toNat + (n - 52))
  else if n = 62 then '+'
  else '/'

/-- The four characters of a group of bytes: the bits of three bytes from the left. -/
def base64Group (a b c : UInt8) : List Char :=
  let bits := (a.toNat * 256 + b.toNat) * 256 + c.toNat
  [bits >>> 18, bits >>> 12 % 64, bits >>> 6 % 64, bits % 64].map base64Char

/-- Bytes in groups of three; a shorter last one is filled up with equals signs. -/
def base64 : List UInt8 → List Char
  | [] => []
  | [a] => (base64Group a 0 0).take 2 ++ ['=', '=']
  | [a, b] => (base64Group a b 0).take 3 ++ ['=']
  | a :: b :: c :: rest => base64Group a b c ++ base64 rest

end MailReconciler.Text
