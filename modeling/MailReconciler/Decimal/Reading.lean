/-
Decimals read back as doubles: the nearest double, and the texts of a number.
-/
import MailReconciler.Text.Lowercase

namespace MailReconciler.Decimal

/-- The value of a digit. -/
def digit? (c : Char) : Option Nat :=
  if '0' ≤ c ∧ c ≤ '9' then some (c.toNat - '0'.toNat) else none

/-- Whether a character is a decimal digit. -/
def isDigit (c : Char) : Bool := (digit? c).isSome

/-- The number that some digits spell; other characters count as zero. -/
def ofDigits (digits : List Char) : Nat :=
  digits.foldl (fun n c => 10 * n + (digit? c).getD 0) 0

/-- The natural number that a text of one or more digits spells. -/
def natural? (text : List Char) : Option Nat :=
  if text.isEmpty || !text.all isDigit then none else some (ofDigits text)

/-- The double nearest to `digits · 10 ^ power`, negated if asked. Powers beyond every double are cut off before they
are computed. -/
def nearest (negative : Bool) (digits : Nat) (power : Int) : Float :=
  let places : Int := power + (toString digits).length
  let size :=
    if digits = 0 then 0.0
    else if 400 < places then 1.0 / 0.0
    else if places < -400 then 0.0
    else if 0 ≤ power then Float.ofScientific digits false power.toNat
    else Float.ofScientific digits true (-power).toNat
  if negative then -size else size

/-- Splits a sign from a text. -/
def takeSign : List Char → Bool × List Char
  | '-' :: rest => (true, rest)
  | '+' :: rest => (false, rest)
  | text => (false, text)

/-- The exponent behind a mantissa: nothing, or `e` with a sign and digits. -/
def exponent? : List Char → Option Int
  | [] => some 0
  | c :: rest =>
    if c = 'e' ∨ c = 'E' then
      let (negative, digits) := takeSign rest
      (natural? digits).map fun n => if negative then -(n : Int) else n
    else none

/-- The double that a text spells: `nan`, `inf` and `infinity` in any case, or digits with a point and an exponent. -/
def double? (text : String) : Option Float :=
  let (negative, body) := takeSign text.toList
  let word := String.ofList (body.map Text.lowerAscii)
  if word = "inf" ∨ word = "infinity" then
    some (if negative then -(1.0 / 0.0) else 1.0 / 0.0)
  else if word = "nan" then
    some (0.0 / 0.0)
  else
    let whole := body.takeWhile isDigit
    let rest := body.dropWhile isDigit
    let (fraction, rest) :=
      match rest with
      | '.' :: rest => (rest.takeWhile isDigit, rest.dropWhile isDigit)
      | rest => ([], rest)
    if whole.isEmpty && fraction.isEmpty then none
    else (exponent? rest).map fun e =>
      nearest negative (ofDigits (whole ++ fraction)) (e - fraction.length)

end MailReconciler.Decimal
