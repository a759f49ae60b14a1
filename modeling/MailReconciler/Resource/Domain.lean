/-
Sending domains: the desired settings with their forms, and the state that the API reports.
-/
import MailReconciler.Resource.Form
import MailReconciler.Resource.Vocabulary

namespace MailReconciler

open Json (Decoder Record)

/-! ## Desired -/

/-- The desired settings of a sending domain; unset ones are left to the API. -/
structure DomainSpec where
  name : String := ""
  spamAction : Option SpamAction := none
  wildcard : Option Bool := none
  forceDkimAuthority : Option Bool := none
  dkimKeySize : Option DkimKeySize := none
  ips : List String := []
  webScheme : Option WebScheme := none
  /-- A secret, which is sent but never written out. -/
  smtpPassword : Option String := none
deriving Repr, DecidableEq

namespace DomainSpec

/-- Refuses settings that the API would refuse. -/
def check (d : DomainSpec) : Except ApiFailure Unit := requireText "name" d.name

/-- The form that creates the domain. -/
def createForm (d : DomainSpec) : Form :=
  [("name", d.name)] ++
  Form.optional "spam_action" (d.spamAction.map Word.word) ++
  Form.optional "wildcard" (d.wildcard.map toString) ++
  Form.optional "force_dkim_authority" (d.forceDkimAuthority.map toString) ++
  Form.optional "dkim_key_size" (d.dkimKeySize.map Word.word) ++
  Form.optional "ips" (if d.ips.isEmpty then none else some (",".intercalate d.ips)) ++
  Form.optional "web_scheme" (d.webScheme.map Word.word) ++
  Form.optional "smtp_password" d.smtpPassword

/-- The form that changes the domain: the settings that can change. -/
def updateForm (d : DomainSpec) : Form :=
  Form.optional "spam_action" (d.spamAction.map Word.word) ++
  Form.optional "wildcard" (d.wildcard.map toString) ++
  Form.optional "web_scheme" (d.webScheme.map Word.word)

/-- Reads the settings from JSON. -/
def decode : Decoder DomainSpec := fun j => do
  let r ← Record.read ["name", "spam_action", "wildcard", "force_dkim_authority", "dkim_key_size", "ips",
    "web_scheme", "smtp_password"] j
  return {
    name := ← r.get "name" "" Decoder.string
    spamAction := ← r.get "spam_action" none (Decoder.option Word.decode)
    wildcard := ← r.get "wildcard" none (Decoder.option Decoder.bool)
    forceDkimAuthority := ← r.get "force_dkim_authority" none (Decoder.option Decoder.bool)
    dkimKeySize := ← r.get "dkim_key_size" none (Decoder.option Word.decode)
    ips := ← r.get "ips" [] (Decoder.list Decoder.string)
    webScheme := ← r.get "web_scheme" none (Decoder.option Word.decode)
    smtpPassword := ← r.get "smtp_password" none (Decoder.option Decoder.string) }

/-- Writes the settings as JSON, without the secret. -/
def toJson (d : DomainSpec) : Json :=
  .object [
    ("name", .string d.name),
    ("spam_action", .ofOption Word.toJson d.spamAction),
    ("wildcard", .ofOption .bool d.wildcard),
    ("force_dkim_authority", .ofOption .bool d.forceDkimAuthority),
    ("dkim_key_size", .ofOption Word.toJson d.dkimKeySize),
    ("ips", .array (d.ips.map .string)),
    ("web_scheme", .ofOption Word.toJson d.webScheme)]

end DomainSpec

/-! ## Observed -/

/-- A name-server record that the API asks the owner to publish. -/
structure DnsRecord where
  recordType : String := ""
  name : Option String := none
  value : String := ""
  priority : Option String := none
  valid : Option String := none
deriving Repr, DecidableEq

namespace DnsRecord

/-- Reads a record from JSON. -/
def decode : Decoder DnsRecord := fun j => do
  let r ← Record.read ["record_type", "name", "value", "priority", "valid"] j
  return {
    recordType := ← r.get "record_type" "" Decoder.string
    name := ← r.get "name" none (Decoder.option Decoder.string)
    value := ← r.get "value" "" Decoder.string
    priority := ← r.get "priority" none (Decoder.option Decoder.string)
    valid := ← r.get "valid" none (Decoder.option Decoder.string) }

/-- Writes a record as JSON. -/
def toJson (d : DnsRecord) : Json :=
  .object [
    ("record_type", .string d.recordType),
    ("name", .ofOption .string d.name),
    ("value", .string d.value),
    ("priority", .ofOption .string d.priority),
    ("valid", .ofOption .string d.valid)]

/-- A list of records, where null is the empty list. -/
def decodeList : Decoder (List DnsRecord) := Decoder.orNull [] (Decoder.list decode)

end DnsRecord

/-- A sending domain as the API reports it. -/
structure DomainState where
  name : String := ""
  state : String := ""
  domainType : String := ""
  smtpLogin : String := ""
  spamAction : Option SpamAction := none
  wildcard : Bool := false
  webScheme : Option WebScheme := none
  isDisabled : Bool := false
  createdAt : Option String := none
  receiving : List DnsRecord := []
  sending : List DnsRecord := []
deriving Repr, DecidableEq

namespace DomainState

/-- Reads a domain from JSON. -/
def decode : Decoder DomainState := fun j => do
  let r ← Record.read ["name", "state", "type", "smtp_login", "spam_action", "wildcard", "web_scheme",
    "is_disabled", "created_at", "receiving_dns_records", "sending_dns_records"] j
  return {
    name := ← r.get "name" "" Decoder.string
    state := ← r.get "state" "" Decoder.string
    domainType := ← r.get "type" "" Decoder.string
    smtpLogin := ← r.get "smtp_login" "" Decoder.string
    spamAction := ← r.get "spam_action" none (Decoder.option Word.decode)
    wildcard := ← r.get "wildcard" false Decoder.bool
    webScheme := ← r.get "web_scheme" none (Decoder.option Word.decode)
    isDisabled := ← r.get "is_disabled" false Decoder.bool
    createdAt := ← r.get "created_at" none (Decoder.option Decoder.string)
    receiving := ← r.get "receiving_dns_records" [] DnsRecord.decodeList
    sending := ← r.get "sending_dns_records" [] DnsRecord.decodeList }

/-- Writes a domain as JSON. -/
def toJson (d : DomainState) : Json :=
  .object [
    ("name", .string d.name),
    ("state", .string d.state),
    ("type", .string d.domainType),
    ("smtp_login", .string d.smtpLogin),
    ("spam_action", .ofOption Word.toJson d.spamAction),
    ("wildcard", .bool d.wildcard),
    ("web_scheme", .ofOption Word.toJson d.webScheme),
    ("is_disabled", .bool d.isDisabled),
    ("created_at", .ofOption .string d.createdAt),
    ("receiving_dns_records", .array (d.receiving.map DnsRecord.toJson)),
    ("sending_dns_records", .array (d.sending.map DnsRecord.toJson))]

/-- Reads an answer that holds a domain with its name-server records beside it; these take the place of the
domain's own. -/
def decodeEnvelope : Decoder DomainState := fun j => do
  let r ← Record.read ["domain", "receiving_dns_records", "sending_dns_records"] j
  let domain ← r.require "domain" decode
  return { domain with
    receiving := ← r.get "receiving_dns_records" [] DnsRecord.decodeList
    sending := ← r.get "sending_dns_records" [] DnsRecord.decodeList }

end DomainState

/-- Whether a domain has every setting that is set in the desired ones. -/
def DomainSpec.metBy (desired : DomainSpec) (observed : DomainState) : Bool :=
  desired.spamAction.all (some · == observed.spamAction) && desired.wildcard.all (· == observed.wildcard) &&
    desired.webScheme.all (some · == observed.webScheme)

end MailReconciler
