/-
Requests, and what carries them to servers and their answers back. The carrier is a parameter: how it reaches servers,
how long that takes, which redirections it follows and what its errors say is not told here.
-/
import MailReconciler.Failure.Api
import MailReconciler.Http.Transport
import MailReconciler.Resource.Form
import MailReconciler.Text.Base64
import MailReconciler.Work.Basic

namespace MailReconciler

/-! ## Requests -/

/-- A request to the remote API. -/
structure Request where
  method : String
  /-- The path below the base of the API. -/
  path : String
  query : List (String × String) := []
  form : Option Form := none
deriving Repr, DecidableEq

/-- A request as it is handed over to be carried. -/
structure SentRequest where
  method : String
  url : Url
  authorization : String
  contentType : Option String
  userAgent : Option String
  body : String
deriving DecidableEq

/-- What the request line names. -/
def SentRequest.target (r : SentRequest) : String := r.url.target

/-! ## Errors -/

/-- An error of a carrier: its text without the URL, the texts of its causes, each the cause of the one before, and what
it tells about the network. -/
structure HttpError where
  message : String
  causes : List String := []
  timedOut : Bool := false
  connecting : Bool := false
deriving Repr, DecidableEq

namespace HttpError

/-- A text with a cause behind it, unless the cause says nothing or the text ends with it already. -/
def addCause (text cause : String) : String :=
  if cause.isEmpty || cause.toList.isSuffixOf text.toList then text else text ++ ": " ++ cause

/-- The text with all its causes, so that those of the network are seen. -/
def detail (e : HttpError) : String := e.causes.foldl addCause e.message

/-- The failure of a call that ends with the error. -/
def failure (e : HttpError) : ApiFailure := .transport e.detail e.timedOut e.connecting

/-- A request whose URL cannot be read. -/
def ofUrl (e : UrlError) : HttpError := { message := "builder error", causes := [e.message] }

/-- A request to a server to which there is no way. -/
def unreachable : HttpError where
  message := "error sending request"
  causes := ["client error (Connect)", "tcp connect error", "Network is unreachable (os error 101)"]
  connecting := true

end HttpError

namespace Transport

/-- The header that carries the credentials. -/
def authorization (t : Transport) : String :=
  "Basic " ++ String.ofList (Text.base64 (Text.encode (t.username ++ ":" ++ t.apiKey)))

/-- The request as it is handed over, unless its URL cannot be read. -/
def prepare (names : HostNames) (t : Transport) (r : Request) : Except HttpError SentRequest :=
  match Url.parse names (t.base ++ r.path) with
  | .error e => .error (.ofUrl e)
  | .ok url => .ok {
      method := r.method
      url := url.addQuery r.query
      authorization := t.authorization
      contentType := r.form.map fun _ => "application/x-www-form-urlencoded"
      userAgent := t.userAgent
      body := (r.form.map Text.formBody).getD "" }

end Transport

/-! ## Carriers -/

/-- A carrier that works on a state `ρ`: of its connections, of the network, of servers. -/
structure Carrier (ρ : Type) where
  /-- An answer whose head has arrived. -/
  Answer : Type
  status : Answer → Nat
  /-- Carries a request, which with its answer may take so long, and waits for the head of the answer. -/
  send : Duration → SentRequest → Work ρ (Except HttpError Answer)
  /-- Waits for the whole body of an answer. -/
  body : Answer → Work ρ (Except HttpError (List UInt8))

/-- The carrier of a program without a network. -/
def Carrier.offline {ρ : Type} : Carrier ρ where
  Answer := Empty
  status := nofun
  send _ _ := .done (.error .unreachable)
  body := nofun

end MailReconciler
