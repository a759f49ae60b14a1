/-
The shortest decimal of a finite double: the fewest digits that read back as the same double and, of
those, the digits nearest to it.
-/
import MailReconciler.Decimal.Binary

namespace MailReconciler.Decimal

/-- A positive decimal `digits · 10 ^ power`. -/
structure Digits where
  digits : Nat
  power : Int
deriving Repr, DecidableEq

/-! ## The rounding interval -/

/-- Four times the value and the ends of its rounding interval, in quarters of its last binary place. -/
structure Interval where
  low : Nat
  value : Nat
  high : Nat
  /-- Both ends round to the value; this holds when its magnitude is even. -/
  closed : Bool
  scale : Int

/-- The reals that round to a double. -/
def Binary.interval (b : Binary) : Interval where
  low := 4 * b.magnitude - (if b.atBinadeStart then 1 else 2)
  value := 4 * b.magnitude
  high := 4 * b.magnitude + 2
  closed := b.magnitude % 2 == 0
  scale := b.scale - 2

/-- Whether `candidate · 10 ^ power` lies in the interval. -/
def Interval.holds (i : Interval) (candidate : Nat) (power : Int) : Bool :=
  let ten := Fraction.shift ⟨candidate, 1⟩ power
  let low := Fraction.ofScaled i.low i.scale
  let high := Fraction.ofScaled i.high i.scale
  let left := low.num * ten.den
  let right := ten.num * low.den
  let left' := ten.num * high.den
  let right' := high.num * ten.den
  if i.closed then left ≤ right && left' ≤ right' else left < right && left' < right'

/-! ## The search -/

/-- Number of decimal digits of a natural number; none for zero. -/
def digitCount (n : Nat) : Nat := if n = 0 then 0 else (Nat.toDigits 10 n).length

/-- The least `j` with `1 ≤ f · 10 ^ j`, at most `fuel` more than `j`. -/
def leadingZeros (f : Fraction) : (fuel : Nat) → (j : Nat) → Nat
  | 0, j => j
  | fuel + 1, j => if f.den ≤ f.num * Nat.pow 10 j then j else leadingZeros f fuel (j + 1)

/-- The number `k` with `10 ^ (k - 1) ≤ f < 10 ^ k`, for a positive fraction that a double can hold. -/
def magnitudeOf (f : Fraction) : Int :=
  if f.den ≤ f.num then digitCount (f.num / f.den) else 1 - (leadingZeros f 400 0 : Int)

/-- The neighbour of the value on the grid of `10 ^ power` that lies in the interval and is nearest to it. -/
def Interval.neighbour? (i : Interval) (power : Int) : Option Nat :=
  let scaled := (Fraction.ofScaled i.value i.scale).shift (-power)
  let below := scaled.num / scaled.den
  let remainder := scaled.num % scaled.den
  match i.holds below power, i.holds (below + 1) power with
  | true, true => some (if 2 * remainder ≤ scaled.den then below else below + 1)
  | true, false => some below
  | false, true => some (below + 1)
  | false, false => none

/-- Tries grids of `n`, `n + 1`, … digits for a value of `k` digits before the point. -/
def Interval.search (i : Interval) (k : Int) : (tries : Nat) → (n : Nat) → Digits
  | 0, n => ⟨(i.neighbour? (k - n)).getD 0, k - n⟩
  | tries + 1, n =>
    match i.neighbour? (k - n) with
    | some digits => if digits = 0 then i.search k tries (n + 1) else ⟨digits, k - n⟩
    | none => i.search k tries (n + 1)

/-- Drops trailing zeros from the digits, at most `fuel` of them. -/
def Digits.strip : (fuel : Nat) → Digits → Digits
  | 0, d => d
  | fuel + 1, d =>
    if d.digits ≠ 0 ∧ d.digits % 10 = 0 then Digits.strip fuel ⟨d.digits / 10, d.power + 1⟩ else d

/-- The shortest decimal of a double's absolute value; zero has no digits. -/
def Binary.shortest (b : Binary) : Digits :=
  if b.magnitude = 0 then
    ⟨0, 0⟩
  else
    (b.interval.search (magnitudeOf (Fraction.ofScaled b.magnitude b.scale)) 16 1).strip 20

end MailReconciler.Decimal
