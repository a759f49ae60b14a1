/-
Failures of one call to the remote API. Their texts carry the status code but never the path, because paths hold
identifiers whose digits could be taken for a status code.
-/
import MailReconciler.Failure.Report
import MailReconciler.Text.Lowercase
import MailReconciler.Text.Phrase

namespace MailReconciler

/-- How one call to the remote API failed. -/
inductive ApiFailure where
  /-- The API answered with another status than success. -/
  | status (method path : String) (code : Nat) (detail : String)
  /-- No usable answer arrived. -/
  | transport (detail : String) (timedOut connecting : Bool)
  /-- The body of a successful answer has another shape than expected. -/
  | decode (detail : String)
  /-- The request cannot be built from its parameters. -/
  | invalidRequest (detail : String)
deriving Repr, DecidableEq, Inhabited

namespace ApiFailure

/-- The text of an API failure. -/
def message : ApiFailure → String
  | .status method _ code detail => method ++ " request failed with status " ++ toString code ++ ": " ++ detail
  | .transport detail _ _ => "transport error: " ++ detail
  | .decode detail => "failed to decode response: " ++ detail
  | .invalidRequest detail => "invalid request: " ++ detail

/-- Only transport failures know about the network. -/
def signs : ApiFailure → NetworkSigns
  | .transport _ timedOut connecting => ⟨some timedOut, some connecting⟩
  | _ => .none

instance : Report ApiFailure := ⟨message, signs⟩

/-- The status, when the API answered. -/
def code? : ApiFailure → Option Nat
  | .status _ _ code _ => some code
  | _ => none

/-- Whether a text speaks of a missing resource, in any letter case. -/
def saysNotFound (text : String) : Bool :=
  let lower := Text.lowercase text
  Text.mentions lower "404" || Text.mentions lower "not found"

/-- Whether the failure means that the resource does not exist. -/
def isNotFound (e : ApiFailure) : Bool := e.code? == some 404 || saysNotFound e.message

/-- The statuses of overload and of an absent backend. -/
def passingCodes : List Nat := [429, 502, 503, 504]

/-- What to make of an API failure. -/
def assess : ApiFailure → Assessment
  | .status _ _ code _ =>
    ⟨passingCodes.contains code,
      if code = 404 then .info else if code = 429 ∨ 500 ≤ code then .warning else .error⟩
  | .transport _ timedOut connecting => ⟨timedOut || connecting, .warning⟩
  | .decode _ | .invalidRequest _ => ⟨false, .error⟩

end ApiFailure
end MailReconciler
