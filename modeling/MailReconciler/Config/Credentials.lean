/-
Connection secrets: small JSON documents with the key of the API and, if they differ, its region and its base.
-/
import MailReconciler.Config.Basic
import MailReconciler.Text.Blank

namespace MailReconciler

open Json (Decoder Record)

/-- The credentials of a connection secret. -/
structure Credentials where
  apiKey : String
  region : Option Region
  baseUrl : Option String
deriving Repr, DecidableEq

namespace Credentials

/-- The three texts of a document; names may be written in either way. -/
def decodeTexts : Decoder (String × Option String × Option String) := fun j => do
  let r ← Record.readNamed [("apiKey", ["api_key"]), ("region", []), ("baseUrl", ["base_url"])] j
  return (← r.require "apiKey" Decoder.string, ← r.get "region" none (Decoder.option Decoder.string),
    ← r.get "baseUrl" none (Decoder.option Decoder.string))

/-- The region that a text names, if it is not blank. -/
def region? (text : Option String) : Except SetupError (Option Region) :=
  match text.map Text.trim with
  | none | some "" => .ok none
  | some name =>
    match (Word.parse? name : Option Region) with
    | some region => .ok (some region)
    | none => .error (.setting "region" (Word.refusal Region name))

/-- The three texts of the document that some bytes spell. -/
def textsOf (complaints : Json.Complaints) (bytes : List UInt8) :
    Except SetupError (String × Option String × Option String) :=
  match Json.readAs? decodeTexts (Json.parseBytes? bytes) with
  | some read => .ok read
  | none => .error (.document (some "json") (complaints.ofJson decodeTexts bytes))

/-- The credentials that the bytes of a document spell. -/
def ofBytes (complaints : Json.Complaints) (bytes : List UInt8) : Except SetupError Credentials := do
  let (apiKey, region, baseUrl) ← textsOf complaints bytes
  if Text.isBlankText apiKey then .error (.setting "apiKey" "must not be empty")
  return ⟨apiKey, ← region? region, baseUrl.filter fun url => !Text.isBlankText url⟩

/-- A section with the credentials laid over it; what they leave open is kept. -/
def applyTo (c : Credentials) (api : ApiSection) : ApiSection :=
  { api with
    apiKey := c.apiKey
    region := c.region.getD api.region
    baseUrl := c.baseUrl <|> api.baseUrl }

/-- Credentials as diagnostics show them, without the secret. -/
def describe (c : Credentials) : String :=
  let region := match c.region with
    | none => "None"
    | some r => "Some(" ++ r.describe ++ ")"
  "ApiCredentials \x7b api_key: \"<redacted>\", region: " ++ region ++ ", base_url: " ++ Text.quoteOption c.baseUrl ++
    " \x7d"

end Credentials
end MailReconciler
