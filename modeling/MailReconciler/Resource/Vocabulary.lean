/-
The closed vocabularies of the remote API.
-/
import MailReconciler.Word

namespace MailReconciler

/-- Where the account lives; the region selects the endpoint. -/
inductive Region where
  | us
  | eu
deriving Repr, DecidableEq

instance : Word Region where
  title := "Region"
  all := [.us, .eu]
  word
    | .us => "us"
    | .eu => "eu"

/-- The endpoint of a region. -/
def Region.endpoint : Region → String
  | .us => "https://api.mailgun.net"
  | .eu => "https://api.eu.mailgun.net"

/-- A region as diagnostics show it. -/
def Region.describe : Region → String
  | .us => "Us"
  | .eu => "Eu"

/-- What happens to messages that look like spam. -/
inductive SpamAction where
  | disabled
  | block
  | tag
deriving Repr, DecidableEq

instance : Word SpamAction where
  title := "SpamAction"
  all := [.disabled, .block, .tag]
  word
    | .disabled => "disabled"
    | .block => "block"
    | .tag => "tag"

/-- The scheme of tracking links. -/
inductive WebScheme where
  | http
  | https
deriving Repr, DecidableEq

instance : Word WebScheme where
  title := "WebScheme"
  all := [.http, .https]
  word
    | .http => "http"
    | .https => "https"

/-- The length of a signing key in bits. -/
inductive DkimKeySize where
  | bits1024
  | bits2048
deriving Repr, DecidableEq

instance : Word DkimKeySize where
  title := "DkimKeySize"
  all := [.bits1024, .bits2048]
  word
    | .bits1024 => "1024"
    | .bits2048 => "2048"

/-- Who may post to a mailing list. -/
inductive AccessLevel where
  | readOnly
  | members
  | everyone
deriving Repr, DecidableEq

instance : Word AccessLevel where
  title := "AccessLevel"
  all := [.readOnly, .members, .everyone]
  word
    | .readOnly => "readonly"
    | .members => "members"
    | .everyone => "everyone"

/-- Where replies to list mail go. -/
inductive ReplyPreference where
  | list
  | sender
deriving Repr, DecidableEq

instance : Word ReplyPreference where
  title := "ReplyPreference"
  all := [.list, .sender]
  word
    | .list => "list"
    | .sender => "sender"

/-- The event on which a webhook fires. -/
inductive WebhookEvent where
  | accepted
  | clicked
  | complained
  | delivered
  | opened
  | permanentFail
  | temporaryFail
  | unsubscribed
deriving Repr, DecidableEq

instance : Word WebhookEvent where
  title := "WebhookKind"
  all := [.accepted, .clicked, .complained, .delivered, .opened, .permanentFail, .temporaryFail, .unsubscribed]
  word
    | .accepted => "accepted"
    | .clicked => "clicked"
    | .complained => "complained"
    | .delivered => "delivered"
    | .opened => "opened"
    | .permanentFail => "permanent_fail"
    | .temporaryFail => "temporary_fail"
    | .unsubscribed => "unsubscribed"

/-- The nine kinds of managed resources. -/
inductive ResourceKind where
  | domain
  | route
  | mailingList
  | webhook
  | credential
  | template
  | bounce
  | complaint
  | unsubscribe
deriving Repr, DecidableEq

instance : Word ResourceKind where
  title := "ResourceKind"
  all := [.domain, .route, .mailingList, .webhook, .credential, .template, .bounce, .complaint, .unsubscribe]
  word
    | .domain => "domain"
    | .route => "route"
    | .mailingList => "mailinglist"
    | .webhook => "webhook"
    | .credential => "smtpcredential"
    | .template => "template"
    | .bounce => "bounce"
    | .complaint => "complaint"
    | .unsubscribe => "unsubscribe"

/-- Whether resources of the kind belong to a sending domain. -/
def ResourceKind.scoped : ResourceKind → Bool
  | .domain | .route | .mailingList => false
  | _ => true

end MailReconciler
