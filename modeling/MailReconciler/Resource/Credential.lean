/-
SMTP credentials of a sending domain: the desired login and password, the login that the API reports, and how logins
are qualified and looked up.
-/
import MailReconciler.Resource.MailingList
import MailReconciler.Text.Quoted

namespace MailReconciler

open Json (Decoder Record)

/-- The full address of a login: itself when it is one, else the local part at the domain. -/
def qualifyLogin (login domain : String) : String :=
  if login.toList.contains '@' then login else login ++ "@" ++ domain

/-! ## Desired -/

/-- A desired credential. Its login is a local part or a full address. -/
structure CredentialSpec where
  domain : String := ""
  login : String := ""
  /-- A secret, which is sent but never written out. -/
  password : String := ""
deriving Repr, DecidableEq

namespace CredentialSpec

/-- Refuses a credential without a domain, a login or a password. -/
def check (c : CredentialSpec) : Except ApiFailure Unit := do
  requireText "domain" c.domain
  requireText "login" c.login
  requireText "password" c.password

/-- The full address of the login. -/
def fullLogin (c : CredentialSpec) : String := qualifyLogin c.login c.domain

/-- The form that creates the credential. -/
def createForm (c : CredentialSpec) : Form := [("login", c.login), ("password", c.password)]

/-- The form that changes the password. -/
def passwordForm (c : CredentialSpec) : Form := [("password", c.password)]

/-- Reads a desired credential from JSON. -/
def decode : Decoder CredentialSpec := fun j => do
  let r ← Record.read ["domain", "login", "password"] j
  return {
    domain := ← r.get "domain" "" Decoder.string
    login := ← r.get "login" "" Decoder.string
    password := ← r.get "password" "" Decoder.string }

/-- Writes a desired credential as JSON, without the secret. -/
def toJson (c : CredentialSpec) : Json := .object [("domain", .string c.domain), ("login", .string c.login)]

/-- A desired credential as diagnostics show it: the secret is masked. -/
def describe (c : CredentialSpec) : String :=
  "SmtpCredentialParameters \x7b domain: " ++ Text.quote c.domain ++ ", login: " ++ Text.quote c.login ++
    ", password: \"<redacted>\" \x7d"

end CredentialSpec

/-! ## Observed -/

/-- A credential as the API lists it; passwords are never returned. -/
structure CredentialState where
  login : String := ""
  mailbox : Option String := none
  sizeBytes : Option UInt64 := none
  createdAt : Option String := none
deriving Repr, DecidableEq

namespace CredentialState

/-- Reads a listed credential from JSON. -/
def decode : Decoder CredentialState := fun j => do
  let r ← Record.read ["login", "mailbox", "size_bytes", "created_at"] j
  return {
    login := ← r.get "login" "" Decoder.string
    mailbox := ← r.get "mailbox" none (Decoder.option Decoder.string)
    sizeBytes := ← r.get "size_bytes" none (Decoder.option Decoder.uint64)
    createdAt := ← r.get "created_at" none (Decoder.option Decoder.string) }

/-- Writes a listed credential as JSON. -/
def toJson (c : CredentialState) : Json :=
  .object [
    ("login", .string c.login),
    ("mailbox", .ofOption .string c.mailbox),
    ("size_bytes", .ofOption (fun n => .nat n.toNat) c.sizeBytes),
    ("created_at", .ofOption .string c.createdAt)]

end CredentialState

/-- A page of a domain's credentials. -/
structure CredentialPage where
  items : List CredentialState := []
  totalCount : UInt64 := 0
deriving Repr, DecidableEq

namespace CredentialPage

/-- Reads a page from JSON. -/
def decode : Decoder CredentialPage := fun j => do
  let r ← Record.read ["items", "total_count"] j
  return {
    items := ← r.get "items" [] (Decoder.list CredentialState.decode)
    totalCount := ← r.get "total_count" 0 Decoder.uint64 }

/-- The first credential whose full login is the wanted one, in any letter case. -/
def find? (page : CredentialPage) (domain login : String) : Option CredentialState :=
  let wanted := Text.lowercase (qualifyLogin login domain)
  page.items.find? fun item => Text.lowercase (qualifyLogin item.login domain) == wanted

end CredentialPage
end MailReconciler
