/-
Which errors are worth another try. The text of an error decides, not its type: a network timeout comes first, then
the status codes of overload in the text, then the phrases of the policy.
-/
import MailReconciler.Retry.Policy
import MailReconciler.Failure.Report

namespace MailReconciler.Policy

variable {ε : Type} [Report ε]

/-- Status codes that mark an error as passing wherever they stand in its text. -/
def passingStatusTexts : List String := ["429", "502", "503", "504"]

/-- Whether an error with this text and these network signs is worth another try. That the network calls an error
temporary does not count. -/
def retriesText (p : Policy) (message : String) (signs : NetworkSigns) : Bool :=
  signs.timedOut == some true ||
    let lower := Text.lowercase message
    passingStatusTexts.any (Text.mentions lower) || p.phrases.any (Text.mentions lower)

/-- Whether an error is worth another try. -/
def retries (p : Policy) (e : ε) : Bool := p.retriesText (Report.message e) (Report.signs e)

/-- Whether an outcome calls for another try; a success never does. -/
def retriesOutcome {α : Type} (p : Policy) : Except ε α → Bool
  | .ok _ => false
  | .error e => p.retries e

end MailReconciler.Policy
