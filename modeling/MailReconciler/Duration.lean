/-
Lengths of time in whole nanoseconds, up to `2 ^ 64` seconds: saturating arithmetic, conversion to and from
seconds and milliseconds, and their text.
-/
import MailReconciler.Decimal.Layout

namespace MailReconciler

/-- Nanoseconds since the start of a run. -/
abbrev Instant := Nat

/-- The longest duration in nanoseconds. -/
def maxNanos : Nat := UInt64.size * 1000000000 - 1

/-- A length of time that does not exceed the longest one. -/
structure Duration where
  nanos : Nat
  nanos_le : nanos ≤ maxNanos
deriving DecidableEq

namespace Duration

instance : LE Duration := ⟨fun a b => a.nanos ≤ b.nanos⟩
instance : LT Duration := ⟨fun a b => a.nanos < b.nanos⟩
instance (a b : Duration) : Decidable (a ≤ b) := inferInstanceAs (Decidable (a.nanos ≤ b.nanos))
instance (a b : Duration) : Decidable (a < b) := inferInstanceAs (Decidable (a.nanos < b.nanos))
instance : Min Duration := ⟨fun a b => if a ≤ b then a else b⟩

/-- The duration of `n` nanoseconds, or the longest one when there is none so long. -/
def ofNanos (n : Nat) : Duration := ⟨min n maxNanos, Nat.min_le_right ..⟩

/-- The empty duration. -/
def zero : Duration := ofNanos 0

/-- The longest duration. -/
def longest : Duration := ofNanos maxNanos

/-- A number of milliseconds. -/
def ofMillis (n : Nat) : Duration := ofNanos (n * 1000000)

/-- A number of seconds. -/
def ofSeconds (n : Nat) : Duration := ofNanos (n * 1000000000)

/-- A multiple of a duration, or the longest duration when the multiple is longer. -/
def times (d : Duration) (n : Nat) : Duration := ofNanos (d.nanos * n)

/-- Whole milliseconds, at most the largest 64-bit number. -/
def millis (d : Duration) : Nat := min (d.nanos / 1000000) (UInt64.size - 1)

/-- Whether a duration is empty. -/
def isZero (d : Duration) : Bool := d.nanos == 0

/-! ## Seconds as doubles -/

/-- Seconds as a double: the whole seconds and the fraction are rounded apart and added. -/
def seconds (d : Duration) : Float :=
  (UInt64.ofNat (d.nanos / 1000000000)).toFloat + (UInt64.ofNat (d.nanos % 1000000000)).toFloat / 1000000000.0

/-- The duration of a number of seconds, to the nearest nanosecond with halves going to the even one; none if
the number is negative, too large or not a number. -/
def ofSeconds? (seconds : Float) : Option Duration :=
  match Decimal.Content.ofFloat seconds with
  | .finite b =>
    let nanos := ((Decimal.Fraction.ofScaled b.magnitude b.scale).shift 9).roundEven
    if b.negative && b.magnitude != 0 then none
    else if h : nanos ≤ maxNanos then some ⟨nanos, h⟩ else none
  | .infinite _ | .notANumber => none

/-! ## Text -/

/-- A whole number of units and `rest` of the `10 ^ places` parts of one, without trailing zeros. -/
def fixed (places whole rest : Nat) (unit : String) : String :=
  let digits := toString rest
  let padded := Decimal.zeros (places - digits.length) ++ digits
  let behind := (padded.toList.reverse.dropWhile (· = '0')).reverse
  toString whole ++ (if behind.isEmpty then "" else "." ++ String.ofList behind) ++ unit

/-- A duration in the largest of seconds, milliseconds, microseconds and nanoseconds that it fills once. -/
def render (d : Duration) : String :=
  if 1000000000 ≤ d.nanos then fixed 9 (d.nanos / 1000000000) (d.nanos % 1000000000) "s"
  else if 1000000 ≤ d.nanos then fixed 6 (d.nanos / 1000000) (d.nanos % 1000000) "ms"
  else if 1000 ≤ d.nanos then fixed 3 (d.nanos / 1000) (d.nanos % 1000) "µs"
  else toString d.nanos ++ "ns"

end Duration
end MailReconciler
