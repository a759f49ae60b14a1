/-
Finite double-precision numbers as exact binary fractions `magnitude · 2 ^ scale`, and the interval of
real numbers that round to one of them.
-/

namespace MailReconciler.Decimal

/-- A finite double: its sign and its absolute value `magnitude · 2 ^ scale`. -/
structure Binary where
  negative : Bool
  magnitude : Nat
  scale : Int
  /-- The number is the least of its binade, so the next one below is half as far away as the next one above. -/
  atBinadeStart : Bool
deriving Repr, DecidableEq

/-- What a double holds. -/
inductive Content where
  | finite (value : Binary)
  | infinite (negative : Bool)
  | notANumber
deriving Repr, DecidableEq

/-- Reads the sixty-four bits of a double. -/
def Content.ofBits (bits : UInt64) : Content :=
  let word := bits.toNat
  let negative := word >>> 63 == 1
  let field : Nat := word >>> 52 % 2048
  let fraction : Nat := word % 1 <<< 52
  if field = 2047 then
    if fraction = 0 then .infinite negative else .notANumber
  else if field = 0 then
    .finite ⟨negative, fraction, -1074, false⟩
  else
    .finite ⟨negative, fraction + 1 <<< 52, (field : Int) - 1075, fraction == 0 && field != 1⟩

/-- What a double holds. -/
def Content.ofFloat (x : Float) : Content := .ofBits x.toBits

/-! ## Exact fractions -/

/-- A nonnegative fraction. -/
structure Fraction where
  num : Nat
  den : Nat
deriving Repr, DecidableEq

/-- The fraction `n · 2 ^ scale`. -/
def Fraction.ofScaled (n : Nat) (scale : Int) : Fraction :=
  if 0 ≤ scale then ⟨n <<< scale.toNat, 1⟩ else ⟨n, 1 <<< (-scale).toNat⟩

/-- The fraction times a power of ten. -/
def Fraction.shift (f : Fraction) (power : Int) : Fraction :=
  if 0 ≤ power then ⟨f.num * Nat.pow 10 power.toNat, f.den⟩ else ⟨f.num, f.den * Nat.pow 10 (-power).toNat⟩

/-- The nearest natural number; a half goes to the even neighbour. -/
def Fraction.roundEven (f : Fraction) : Nat :=
  let low := f.num / f.den
  let twice := 2 * (f.num % f.den)
  if twice < f.den then low
  else if f.den < twice then low + 1
  else if low % 2 = 0 then low else low + 1

end MailReconciler.Decimal
