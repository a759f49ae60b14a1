/-
Resources of any of the nine kinds: what is desired of one, and what is observed.
-/
import MailReconciler.Resource.Credential
import MailReconciler.Resource.Domain
import MailReconciler.Resource.Route
import MailReconciler.Resource.Suppression
import MailReconciler.Resource.Template

namespace MailReconciler

/-- The desired state of a resource. -/
inductive Desired where
  | domain (spec : DomainSpec)
  | route (spec : RouteSpec)
  | mailingList (spec : MailingListSpec)
  | webhook (spec : WebhookSpec)
  | credential (spec : CredentialSpec)
  | template (spec : TemplateSpec)
  | bounce (spec : BounceSpec)
  | complaint (spec : ComplaintSpec)
  | unsubscribe (spec : UnsubscribeSpec)
deriving Repr, DecidableEq

/-- The observed state of a resource. -/
inductive Observed where
  | domain (state : DomainState)
  | route (state : RouteState)
  | mailingList (state : MailingListState)
  | webhook (state : WebhookState)
  | credential (state : CredentialState)
  | template (state : TemplateState)
  | bounce (state : BounceState)
  | complaint (state : ComplaintState)
  | unsubscribe (state : UnsubscribeState)
deriving Repr, DecidableEq

namespace Desired

/-- The kind of the resource. -/
def kind : Desired → ResourceKind
  | .domain _ => .domain
  | .route _ => .route
  | .mailingList _ => .mailingList
  | .webhook _ => .webhook
  | .credential _ => .credential
  | .template _ => .template
  | .bounce _ => .bounce
  | .complaint _ => .complaint
  | .unsubscribe _ => .unsubscribe

/-- Reads the desired state of a resource of a kind from JSON. -/
def decode (kind : ResourceKind) : Json.Decoder Desired := fun j =>
  match kind with
  | .domain => (DomainSpec.decode j).map .domain
  | .route => (RouteSpec.decode j).map .route
  | .mailingList => (MailingListSpec.decode j).map .mailingList
  | .webhook => (WebhookSpec.decode j).map .webhook
  | .credential => (CredentialSpec.decode j).map .credential
  | .template => (TemplateSpec.decode j).map .template
  | .bounce => (BounceSpec.decode j).map .bounce
  | .complaint => (ComplaintSpec.decode j).map .complaint
  | .unsubscribe => (UnsubscribeSpec.decode j).map .unsubscribe

/-- Refuses a state that the API would refuse. -/
def check : Desired → Except ApiFailure Unit
  | .domain d => d.check
  | .route r => r.check
  | .mailingList l => l.check
  | .webhook w => w.check
  | .credential c => c.check
  | .template t => t.check
  | .bounce b => b.check
  | .complaint c => c.check
  | .unsubscribe u => u.check

end Desired

/-- Writes an observed state as JSON. -/
def Observed.toJson : Observed → Json
  | .domain d => d.toJson
  | .route r => r.toJson
  | .mailingList l => l.toJson
  | .webhook w => w.toJson
  | .credential c => c.toJson
  | .template t => t.toJson
  | .bounce b => b.toJson
  | .complaint c => c.toJson
  | .unsubscribe u => u.toJson

end MailReconciler
