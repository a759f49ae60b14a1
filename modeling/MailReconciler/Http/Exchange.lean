/-
Requests with their answers. A bad gateway is tried again after growing waits; everything else is for the caller to
judge: other statuses fail with what the answer says, and a success holds data.
-/
import MailReconciler.Http.Carrier
import MailReconciler.Http.Status
import MailReconciler.Json.Decoding
import MailReconciler.Json.Reading

namespace MailReconciler

/-- An answer that has arrived as a whole. -/
structure Received where
  status : Nat
  body : List UInt8
deriving Repr, DecidableEq

namespace Http

/-! ## Answers -/

/-- The blanks of a body. -/
def isBlankByte (b : UInt8) : Bool := b = 0x20 || b = 0x09 || b = 0x0A || b = 0x0C || b = 0x0D

/-- The message of a body that is a JSON object with one. -/
def jsonMessage? (body : List UInt8) : Option String := do
  match ← ((← Json.parseBytes? body).asData?.bind (·.member? "message")) with
  | .string message => some message
  | _ => none

/-- What an answer without success says: its message, or else its text, or else the phrase of its status. -/
def failureDetail (status : Nat) (body : List UInt8) : String :=
  match jsonMessage? body with
  | some message => message
  | none =>
    let text := Text.trim (Text.decodeLossy body)
    if text.isEmpty then reason status else text

variable {α : Type}

/-- The data in a successful answer, which stands for null when there is nothing in it. -/
def decodeAnswer (complaints : Json.Complaints) (decode : Json.Decoder α) (r : Received) : Except ApiFailure α :=
  let isNull := r.status = 204 ∨ r.body.all isBlankByte
  match Json.readAs? decode (if isNull then some .null else Json.parseBytes? r.body) with
  | some data => .ok data
  | none => .error (.decode (if isNull then complaints.ofNull decode else complaints.ofJson decode r.body))

/-- The data in an answer to a request. -/
def understand (complaints : Json.Complaints) (request : Request) (r : Received) (decode : Json.Decoder α) :
    Except ApiFailure α :=
  if isSuccess r.status then decodeAnswer complaints decode r
  else .error (.status request.method request.path r.status (failureDetail r.status r.body))

end Http

namespace Transport

/-- The status of a gateway without a backend. -/
def badGateway : Nat := 502

variable {ρ α : Type}

/-- Sends a request, and again up to `spare` times while the gateway is bad; `retry` is the number of the next of
these attempts. The bodies of a bad gateway's answers are not waited for. -/
def sendFrom (t : Transport) (c : Carrier ρ) (sent : SentRequest) :
    (spare retry : Nat) → Work ρ (Except HttpError c.Answer)
  | spare, retry => do
    match ← c.send t.timeout sent with
    | .error e => return .error e
    | .ok answer =>
      match spare with
      | 0 => return .ok answer
      | spare + 1 =>
        if c.status answer = badGateway then
          Work.sleep (t.gatewayBackoff.times retry).nanos
          t.sendFrom c sent spare (retry + 1)
        else return .ok answer

/-- Sends a request and waits for the whole of the last answer. -/
def fetch (t : Transport) (c : Carrier ρ) (sent : SentRequest) : Work ρ (Except HttpError Received) := do
  match ← t.sendFrom c sent t.gatewayRetries.toNat 1 with
  | .error e => return .error e
  | .ok answer => return (← c.body answer).map fun body => ⟨c.status answer, body⟩

/-- Asks for an answer to a request. -/
def ask (names : HostNames) (t : Transport) (c : Carrier ρ) (request : Request) :
    Work ρ (Except ApiFailure Received) :=
  match t.prepare names request with
  | .error e => .done (.error e.failure)
  | .ok sent => do return (← t.fetch c sent).mapError HttpError.failure

/-- Sends a request; the data that a decoder finds in its answer. -/
def sendAs (names : HostNames) (complaints : Json.Complaints) (t : Transport) (c : Carrier ρ)
    (decode : Json.Decoder α) (request : Request) : Work ρ (Except ApiFailure α) := do
  return (← t.ask names c request).bind fun received => Http.understand complaints request received decode

/-- Sends a request whose answer may hold any value. -/
def sendUnit (names : HostNames) (complaints : Json.Complaints) (t : Transport) (c : Carrier ρ) (request : Request) :
    Work ρ (Except ApiFailure Unit) :=
  t.sendAs names complaints c .ignored request

end Transport
end MailReconciler
