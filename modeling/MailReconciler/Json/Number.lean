/-
The value of a number token. The digits are gathered in sixty-four bits, and a fraction or an exponent is applied
by one multiplication or division by a power of ten, so the last bit may differ from the nearest double.
-/
import MailReconciler.Json.Basic
import MailReconciler.Decimal.Reading

namespace MailReconciler.Json

/-- A number token: sign, digits before the point, digits behind it and exponent. -/
structure Token where
  negative : Bool
  whole : List Char
  /-- Absent without a point. -/
  fraction : Option (List Char)
  /-- Absent without an exponent: its sign and its digits. -/
  exponent : Option (Bool × List Char)
deriving Repr, DecidableEq

/-! ## Gathering digits -/

/-- Takes digits into a number as long as it stays below `2 ^ 64`; the digits that no longer fit are left. -/
def gather (n : Nat) : List Char → Nat × List Char
  | [] => (n, [])
  | c :: rest =>
    let next := 10 * n + (Decimal.digit? c).getD 0
    if next < UInt64.size then gather next rest else (n, c :: rest)

/-! ## Scaling -/

/-- The double `10 ^ e`, for `e` up to 308. -/
def tenPower (e : Nat) : Float := Float.ofScientific 1 false e

/-- Multiplies by `10 ^ power`, in steps of at most 308; none when the result is too large. -/
def scale? : (steps : Nat) → Float → Int → Option Float
  | 0, _, _ => some 0.0
  | steps + 1, x, power =>
    if power.natAbs ≤ 308 then
      if 0 ≤ power then
        let product := x * tenPower power.toNat
        if product.isInf then none else some product
      else some (x / tenPower power.natAbs)
    else if x == 0.0 then some x
    else if 0 ≤ power then none
    else scale? steps (x / tenPower 308) (power + 308)

/-- `significand · 10 ^ power` with a sign. -/
def ofParts? (negative : Bool) (significand : Nat) (power : Int) : Option Number :=
  (scale? 8 (UInt64.ofNat significand).toFloat power).map fun x => .double (if negative then -x else x)

/-- Applies an exponent. One that does not fit in thirty-one bits makes zero, or a number too large. -/
def applyExponent? (negative : Bool) (significand : Nat) (power : Int) (e : Bool × List Char) : Option Number :=
  let size := Decimal.ofDigits e.2
  if size < 1 <<< 31 then
    ofParts? negative significand (if e.1 then power - size else power + size)
  else if significand ≠ 0 ∧ e.1 = false then none
  else some (.double (if negative then -0.0 else 0.0))

/-- The value of a token; none when it is beyond every double. A token of digits alone is an integer when it fits,
but a negative zero is a double. -/
def Token.value? (t : Token) : Option Number :=
  let (whole, left) := gather 0 t.whole
  let (significand, power) : Nat × Int :=
    match left, t.fraction with
    | [], some digits =>
      let (n, unread) := gather whole digits
      (n, (unread.length : Int) - digits.length)
    | left, some digits =>
      let (n, unread) := gather whole digits
      (n, left.length + ((unread.length : Int) - digits.length))
    | left, none => (whole, left.length)
  match t.fraction, t.exponent with
  | none, none =>
    if left.isEmpty then
      if !t.negative then some (.integer whole)
      else if whole ≠ 0 ∧ whole ≤ 1 <<< 63 then some (.integer (-(whole : Int)))
      else some (.double (-(UInt64.ofNat whole).toFloat))
    else ofParts? t.negative significand power
  | _, none => ofParts? t.negative significand power
  | _, some e => applyExponent? t.negative significand power e

end MailReconciler.Json
