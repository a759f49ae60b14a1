/-
The endpoints of the remote API: for each call its request, and how its answer is read. Identifiers are
percent-encoded, so that each stays one segment of the path.
-/
import MailReconciler.Client.Call
import MailReconciler.Http.Exchange

namespace MailReconciler

namespace Endpoint

/-! ## Paths -/

/-- The path of a domain. -/
def domain (name : String) : String := "/v4/domains/" ++ Text.segment name

/-- The path of a domain in the older version of the API, the only one that deletes. -/
def olderDomain (name : String) : String := "/v3/domains/" ++ Text.segment name

/-- The path of a route. -/
def route (id : String) : String := "/v3/routes/" ++ Text.segment id

/-- The path of a mailing list. -/
def mailingList (address : String) : String := "/v3/lists/" ++ Text.segment address

/-- The path of the webhooks of a domain. -/
def webhooks (name : String) : String := olderDomain name ++ "/webhooks"

/-- The path of a webhook. -/
def webhook (name : String) (event : WebhookEvent) : String := webhooks name ++ "/" ++ Word.word event

/-- The path of the credentials of a domain. -/
def credentials (name : String) : String := olderDomain name ++ "/credentials"

/-- The path of a credential. -/
def credential (name login : String) : String := credentials name ++ "/" ++ Text.segment login

/-- The path of the entries of a kind that belong to a domain. -/
def entries (name kind : String) : String := "/v3/" ++ Text.segment name ++ "/" ++ kind

/-- The path of one entry. -/
def entry (name kind id : String) : String := entries name kind ++ "/" ++ Text.segment id

/-! ## Requests -/

/-- A request that reads. -/
def get (path : String) (query : List (String × String)) : Request := ⟨"GET", path, query, none⟩

/-- A request that creates. -/
def post (path : String) (form : Form) : Request := ⟨"POST", path, [], some form⟩

/-- A request that changes. -/
def put (path : String) (form : Form) : Request := ⟨"PUT", path, [], some form⟩

/-- A request that deletes. -/
def delete (path : String) : Request := ⟨"DELETE", path, [], none⟩

end Endpoint

namespace Call

open Endpoint

variable {α : Type}

/-- The request of a call. -/
def request : Call α → Request
  | createDomain d => post "/v4/domains" d.createForm
  | getDomain name => get (domain name) []
  | updateDomain name d => put (domain name) d.updateForm
  | deleteDomain name => delete (olderDomain name)
  | createRoute r => post "/v3/routes" r.form
  | getRoute id => get (route id) []
  | updateRoute id r => put (route id) r.form
  | deleteRoute id => delete (route id)
  | createMailingList l => post "/v3/lists" l.form
  | getMailingList address => get (mailingList address) []
  | updateMailingList address l => put (mailingList address) l.form
  | deleteMailingList address => delete (mailingList address)
  | createWebhook w => post (webhooks w.domain) w.createForm
  | getWebhook name event => get (webhook name event) []
  | updateWebhook w => put (webhook w.domain w.event) w.updateForm
  | deleteWebhook name event => delete (webhook name event)
  | createCredential c => post (credentials c.domain) c.createForm
  | getCredential name _ => get (credentials name) [("limit", "1000")]
  | updatePassword c => put (credential c.domain c.login) c.passwordForm
  | deleteCredential name login => delete (credential name login)
  | createTemplate t => post (entries t.domain "templates") t.createForm
  | getTemplate name template => get (entry name "templates" template) [("active", "yes")]
  | updateTemplate t => put (entry t.domain "templates" t.name) t.updateForm
  | deleteTemplate name template => delete (entry name "templates" template)
  | createBounce b => post (entries b.domain "bounces") b.form
  | getBounce name address => get (entry name "bounces" address) []
  | deleteBounce name address => delete (entry name "bounces" address)
  | createComplaint c => post (entries c.domain "complaints") c.form
  | getComplaint name address => get (entry name "complaints" address) []
  | deleteComplaint name address => delete (entry name "complaints" address)
  | createUnsubscribe u => post (entries u.domain "unsubscribes") u.form
  | getUnsubscribe name address => get (entry name "unsubscribes" address) []
  | deleteUnsubscribe name address => delete (entry name "unsubscribes" address)

/-! ## Answers -/

/-- The credential with a login in a page of a domain's credentials. There is no endpoint for a single one. -/
def findCredential (name login : String) (page : CredentialPage) : Except ApiFailure CredentialState :=
  match page.find? name login with
  | some c => .ok c
  | none => .error (.status "GET" (credentials name) 404 "credential not found")

/-- What the answer to a call says, through the reading of its data by a decoder. Where nothing is asked for, any value
will do. -/
def understand (read : {β : Type} → Json.Decoder β → Except ApiFailure β) : Call α → Except ApiFailure α
  | createDomain _ | getDomain _ => read DomainState.decodeEnvelope
  | createRoute _ | getRoute _ => read RouteState.decodeEnvelope
  | updateRoute _ _ => read RouteState.decode
  | createMailingList _ | getMailingList _ | updateMailingList _ _ => read MailingListState.decodeEnvelope
  | createWebhook w | updateWebhook w => read (WebhookState.decodeEnvelope w.domain w.event)
  | getWebhook name event => read (WebhookState.decodeEnvelope name event)
  | getCredential name login => (read CredentialPage.decode).bind (findCredential name login)
  | createTemplate _ | getTemplate _ _ => read TemplateState.decodeEnvelope
  | getBounce _ _ => read BounceState.decode
  | getComplaint _ _ => read ComplaintState.decode
  | getUnsubscribe _ _ => read UnsubscribeState.decode
  | updateDomain _ _ | deleteDomain _ | deleteRoute _ | deleteMailingList _ | deleteWebhook _ _ | createCredential _
  | updatePassword _ | deleteCredential _ _ | updateTemplate _ | deleteTemplate _ _ | createBounce _
  | deleteBounce _ _ | createComplaint _ | deleteComplaint _ _ | createUnsubscribe _ | deleteUnsubscribe _ _ =>
    read .ignored

end Call

/-- The remote API behind a carrier. -/
def Transport.service {ρ : Type} (names : HostNames) (complaints : Json.Complaints) (t : Transport) (c : Carrier ρ) :
    Service ρ where
  perform call := do
    return (← t.ask names c call.request).bind fun received =>
      call.understand (Http.understand complaints call.request received)

end MailReconciler
