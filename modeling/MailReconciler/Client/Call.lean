/-
The thirty-three operations of the remote API, each with the type of its answer.
-/
import MailReconciler.Resource.Credential
import MailReconciler.Resource.Domain
import MailReconciler.Resource.Route
import MailReconciler.Resource.Suppression
import MailReconciler.Resource.Template
import MailReconciler.Work.Basic

namespace MailReconciler

/-- A call of the remote API that answers with an `α`. -/
inductive Call : Type → Type where
  | createDomain (spec : DomainSpec) : Call DomainState
  | getDomain (name : String) : Call DomainState
  | updateDomain (name : String) (spec : DomainSpec) : Call Unit
  | deleteDomain (name : String) : Call Unit
  | createRoute (spec : RouteSpec) : Call RouteState
  | getRoute (id : String) : Call RouteState
  | updateRoute (id : String) (spec : RouteSpec) : Call RouteState
  | deleteRoute (id : String) : Call Unit
  | createMailingList (spec : MailingListSpec) : Call MailingListState
  | getMailingList (address : String) : Call MailingListState
  | updateMailingList (address : String) (spec : MailingListSpec) : Call MailingListState
  | deleteMailingList (address : String) : Call Unit
  | createWebhook (spec : WebhookSpec) : Call WebhookState
  | getWebhook (domain : String) (event : WebhookEvent) : Call WebhookState
  | updateWebhook (spec : WebhookSpec) : Call WebhookState
  | deleteWebhook (domain : String) (event : WebhookEvent) : Call Unit
  | createCredential (spec : CredentialSpec) : Call Unit
  | getCredential (domain login : String) : Call CredentialState
  | updatePassword (spec : CredentialSpec) : Call Unit
  | deleteCredential (domain login : String) : Call Unit
  | createTemplate (spec : TemplateSpec) : Call TemplateState
  | getTemplate (domain name : String) : Call TemplateState
  | updateTemplate (spec : TemplateSpec) : Call Unit
  | deleteTemplate (domain name : String) : Call Unit
  | createBounce (spec : BounceSpec) : Call Unit
  | getBounce (domain address : String) : Call BounceState
  | deleteBounce (domain address : String) : Call Unit
  | createComplaint (spec : ComplaintSpec) : Call Unit
  | getComplaint (domain address : String) : Call ComplaintState
  | deleteComplaint (domain address : String) : Call Unit
  | createUnsubscribe (spec : UnsubscribeSpec) : Call Unit
  | getUnsubscribe (domain address : String) : Call UnsubscribeState
  | deleteUnsubscribe (domain address : String) : Call Unit

namespace Call

/-- The name of an operation in messages and samples. -/
def name {α : Type} : Call α → String
  | createDomain _ => "create_domain"
  | getDomain _ => "get_domain"
  | updateDomain _ _ => "update_domain"
  | deleteDomain _ => "delete_domain"
  | createRoute _ => "create_route"
  | getRoute _ => "get_route"
  | updateRoute _ _ => "update_route"
  | deleteRoute _ => "delete_route"
  | createMailingList _ => "create_mailing_list"
  | getMailingList _ => "get_mailing_list"
  | updateMailingList _ _ => "update_mailing_list"
  | deleteMailingList _ => "delete_mailing_list"
  | createWebhook _ => "create_webhook"
  | getWebhook _ _ => "get_webhook"
  | updateWebhook _ => "update_webhook"
  | deleteWebhook _ _ => "delete_webhook"
  | createCredential _ => "create_smtp_credential"
  | getCredential _ _ => "get_smtp_credential"
  | updatePassword _ => "update_smtp_credential_password"
  | deleteCredential _ _ => "delete_smtp_credential"
  | createTemplate _ => "create_template"
  | getTemplate _ _ => "get_template"
  | updateTemplate _ => "update_template"
  | deleteTemplate _ _ => "delete_template"
  | createBounce _ => "create_bounce"
  | getBounce _ _ => "get_bounce"
  | deleteBounce _ _ => "delete_bounce"
  | createComplaint _ => "create_complaint"
  | getComplaint _ _ => "get_complaint"
  | deleteComplaint _ _ => "delete_complaint"
  | createUnsubscribe _ => "create_unsubscribe"
  | getUnsubscribe _ _ => "get_unsubscribe"
  | deleteUnsubscribe _ _ => "delete_unsubscribe"

/-- The answer of a call as JSON; an empty answer is null. -/
def answerJson {α : Type} : Call α → α → Json
  | createDomain _, d | getDomain _, d => d.toJson
  | createRoute _, r | getRoute _, r | updateRoute _ _, r => r.toJson
  | createMailingList _, l | getMailingList _, l | updateMailingList _ _, l => l.toJson
  | createWebhook _, w | getWebhook _ _, w | updateWebhook _, w => w.toJson
  | getCredential _ _, c => c.toJson
  | createTemplate _, t | getTemplate _ _, t => t.toJson
  | getBounce _ _, b => b.toJson
  | getComplaint _ _, c => c.toJson
  | getUnsubscribe _ _, u => u.toJson
  | updateDomain _ _, _ | deleteDomain _, _ | deleteRoute _, _ | deleteMailingList _, _ | deleteWebhook _ _, _
  | createCredential _, _ | updatePassword _, _ | deleteCredential _ _, _ | updateTemplate _, _
  | deleteTemplate _ _, _ | createBounce _, _ | deleteBounce _ _, _ | createComplaint _, _ | deleteComplaint _ _, _
  | createUnsubscribe _, _ | deleteUnsubscribe _ _, _ => .null

end Call

/-- Anything that answers the calls of the remote API, over a state of its own. -/
structure Service (σ : Type) where
  perform : {α : Type} → Call α → Work σ (Except ApiFailure α)

end MailReconciler
