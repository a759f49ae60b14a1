/-
Natural numbers below a bound, read from texts, and why a text is none.
-/
import MailReconciler.Decimal.Reading

namespace MailReconciler.Decimal

/-- Why a text is no natural number below a bound. -/
inductive BoundedError where
  | empty
  | badDigit
  | tooLarge
deriving Repr, DecidableEq

/-- The text of such an error. -/
def BoundedError.message : BoundedError → String
  | .empty => "cannot parse integer from empty string"
  | .badDigit => "invalid digit found in string"
  | .tooLarge => "number too large to fit in target type"

/-- Takes digits into a number from the left; the first fault counts. -/
def gatherBelow (bound n : Nat) : List Char → Except BoundedError Nat
  | [] => .ok n
  | c :: rest =>
    match digit? c with
    | none => .error .badDigit
    | some d => if 10 * n + d < bound then gatherBelow bound (10 * n + d) rest else .error .tooLarge

/-- The number below a bound that a text spells; a plus sign may stand before its digits. -/
def below (bound : Nat) (text : String) : Except BoundedError Nat :=
  match text.toList with
  | [] => .error .empty
  | '+' :: d :: digits => gatherBelow bound 0 (d :: digits)
  | digits => gatherBelow bound 0 digits

end MailReconciler.Decimal
