/-
Form bodies as ordered pairs, and the check that a required field has text.
-/
import MailReconciler.Failure.Api
import MailReconciler.Text.Blank

namespace MailReconciler

/-- The pairs of a form body in order; a list repeats its key. -/
abbrev Form := List (String × String)

namespace Form

/-- One pair if the value is set, none if not. -/
def optional (key : String) : Option String → Form
  | none => []
  | some value => [(key, value)]

/-- One pair for every value. -/
def each (key : String) (values : List String) : Form := values.map (key, ·)

end Form

/-- Refuses a required field of nothing but blanks. -/
def requireText (field value : String) : Except ApiFailure Unit :=
  if Text.isBlankText value then .error (.invalidRequest (field ++ " must not be empty")) else .ok ()

end MailReconciler
