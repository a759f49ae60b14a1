/-
How a decimal is laid out as text: where positional notation ends, whether whole numbers keep a point, and
how special values are spelled.
-/
import MailReconciler.Decimal.Shortest

namespace MailReconciler.Decimal

/-- The decisions of one notation. `places` below is the number of digits before the decimal point. -/
structure Layout where
  /-- The least number of places written positionally; every number when absent. -/
  least : Option Int
  /-- The greatest number of places written positionally; every number when absent. -/
  greatest : Option Int
  /-- Whole numbers in positional notation end in `.0`. -/
  keepPoint : Bool
  /-- A positive exponent carries a plus sign. -/
  plus : Bool
deriving Repr, DecidableEq

/-- Plain positional notation, the one of messages and of the exposition of metrics. -/
def plain : Layout := ⟨none, none, false, false⟩

/-- The notation of JSON: positional up to sixteen places before and four zeros behind the point. -/
def json : Layout := ⟨some (-4), some 16, true, true⟩

/-! ## Writing -/

/-- `n` zeros. -/
def zeros (n : Nat) : String := String.ofList (List.replicate n '0')

/-- Digits in positional notation. -/
def positional (keepPoint : Bool) (d : Digits) : String :=
  let text := toString d.digits
  if 0 ≤ d.power then
    text ++ zeros (if d.digits = 0 then 0 else d.power.toNat) ++ (if keepPoint then ".0" else "")
  else
    let behind := (-d.power).toNat
    let padded := zeros (behind + 1 - text.length) ++ text
    let cut := padded.length - behind
    String.ofList (padded.toList.take cut) ++ "." ++ String.ofList (padded.toList.drop cut)

/-- Digits in scientific notation: one digit before the point. -/
def scientific (plus : Bool) (d : Digits) : String :=
  let digits := (toString d.digits).toList
  let exponent : Int := d.power + digits.length - 1
  let mantissa :=
    match digits with
    | [] => ""
    | [c] => String.singleton c
    | c :: rest => String.singleton c ++ "." ++ String.ofList rest
  mantissa ++ "e" ++ (if exponent < 0 then "-" else if plus then "+" else "") ++ toString exponent.natAbs

/-- Digits as a layout writes them. -/
def Layout.digits (l : Layout) (d : Digits) : String :=
  let places : Int := if d.digits = 0 then 1 else d.power + digitCount d.digits
  if l.least.all (· ≤ places) && l.greatest.all (places ≤ ·) then
    positional l.keepPoint d
  else
    scientific l.plus d

/-- The text of a double; the sign of zero is written. -/
def Layout.render (l : Layout) (x : Float) : String :=
  match Content.ofFloat x with
  | .notANumber => "NaN"
  | .infinite negative => if negative then "-inf" else "inf"
  | .finite b => (if b.negative then "-" else "") ++ l.digits b.shortest

end MailReconciler.Decimal
