/-
The life of a remote resource: observe, create, update and delete, for each kind by its external name. A resource that
is not found is absent when it is observed, and gone already when it is deleted.
-/
import MailReconciler.Client.Guarded
import MailReconciler.Lifecycle.Desired

namespace MailReconciler

/-- What was found of a resource. -/
inductive Observation where
  | absent
  /-- It exists; whether it is as desired, and its state. -/
  | present (upToDate : Bool) (state : Observed)
deriving Repr, DecidableEq

namespace Lifecycle

variable {ρ α : Type}

/-- An answer that says "not found" is an answer: there is nothing. -/
def found : Except CallFailure α → Except CallFailure (Option α)
  | .ok a => .ok (some a)
  | .error e => if e.isNotFound then .ok none else .error e

/-- A deletion of what is not found has happened already. -/
def gone : Except CallFailure Unit → Except CallFailure Unit
  | .ok () => .ok ()
  | .error e => if e.isNotFound then .ok () else .error e

/-- Makes a call only if the desired state passes its check; a refused state counts as refused by the operation. -/
def checked (operation : String) (check : Except ApiFailure Unit) (work : Work (World ρ) (Except CallFailure α)) :
    Work (World ρ) (Except CallFailure α) :=
  match check with
  | .ok () => work
  | .error e => .done (.error (.refused operation e))

/-- Looks a resource up and compares it with the desired state. -/
def lookUp (client : Client ρ) (scope : Scope) (call : Call α) (observed : α → Observed) (upToDate : α → Bool) :
    Work (World ρ) (Except CallFailure Observation) := do
  let answer ← client.call scope call
  return (found answer).map fun
    | none => .absent
    | some state => .present (upToDate state) (observed state)

/-- Observes a resource under its external name. Without a name there is nothing to look for. -/
def observe (client : Client ρ) (scope : Scope) (name : String) (desired : Desired) :
    Work (World ρ) (Except CallFailure Observation) :=
  if name.isEmpty then .done (.ok .absent)
  else match desired with
  | .domain d => lookUp client scope (.getDomain name) .domain d.metBy
  | .route r => lookUp client scope (.getRoute name) .route r.metBy
  | .mailingList l => lookUp client scope (.getMailingList name) .mailingList l.metBy
  | .webhook w => lookUp client scope (.getWebhook w.domain w.event) .webhook w.metBy
  | .credential c => lookUp client scope (.getCredential c.domain name) .credential fun _ => true
  | .template t => lookUp client scope (.getTemplate t.domain name) .template t.metBy
  | .bounce b => lookUp client scope (.getBounce b.domain name) .bounce b.metBy
  | .complaint c => lookUp client scope (.getComplaint c.domain name) .complaint fun _ => true
  | .unsubscribe u => lookUp client scope (.getUnsubscribe u.domain name) .unsubscribe u.metBy

/-- Makes a call that creates a resource, and names what it created. -/
def createBy (client : Client ρ) (scope : Scope) (check : Except ApiFailure Unit) (call : Call α)
    (name : α → String) : Work (World ρ) (Except CallFailure String) :=
  checked call.name check do return (← client.call scope call).map name

/-- Creates a resource; the answer is its external name. -/
def create (client : Client ρ) (scope : Scope) (desired : Desired) : Work (World ρ) (Except CallFailure String) :=
  match desired with
  | .domain d => createBy client scope d.check (.createDomain d) (·.name)
  | .route r => createBy client scope r.check (.createRoute r) (·.id)
  | .mailingList l => createBy client scope l.check (.createMailingList l) (·.address)
  | .webhook w => createBy client scope w.check (.createWebhook w) fun state => Word.word state.event
  | .credential c => createBy client scope c.check (.createCredential c) fun _ => c.fullLogin
  | .template t => createBy client scope t.check (.createTemplate t) (·.name)
  | .bounce b => createBy client scope b.check (.createBounce b) fun _ => b.address
  | .complaint c => createBy client scope c.check (.createComplaint c) fun _ => c.address
  | .unsubscribe u => createBy client scope u.check (.createUnsubscribe u) fun _ => u.address

/-- Makes a call whose answer is of no use. -/
def callOnly (client : Client ρ) (scope : Scope) (call : Call α) : Work (World ρ) (Except CallFailure Unit) := do
  return (← client.call scope call).map fun _ => ()

/-- Changes a resource to the desired state. A suppression entry is created anew, which overwrites it. -/
def update (client : Client ρ) (scope : Scope) (name : String) (desired : Desired) :
    Work (World ρ) (Except CallFailure Unit) :=
  match desired with
  | .domain d => callOnly client scope (.updateDomain name d)
  | .route r => checked "update_route" r.check (callOnly client scope (.updateRoute name r))
  | .mailingList l => checked "update_mailing_list" l.check (callOnly client scope (.updateMailingList name l))
  | .webhook w => checked "update_webhook" w.check (callOnly client scope (.updateWebhook w))
  | .credential c =>
    checked "update_smtp_credential_password" c.check (callOnly client scope (.updatePassword c))
  | .template t => callOnly client scope (.updateTemplate t)
  | .bounce _ | .complaint _ | .unsubscribe _ => do
    return (← create client scope desired).map fun _ => ()

/-- Deletes a resource. -/
def delete (client : Client ρ) (scope : Scope) (name : String) (desired : Desired) :
    Work (World ρ) (Except CallFailure Unit) := do
  let answer ← match desired with
    | .domain _ => client.call scope (.deleteDomain name)
    | .route _ => client.call scope (.deleteRoute name)
    | .mailingList _ => client.call scope (.deleteMailingList name)
    | .webhook w => client.call scope (.deleteWebhook w.domain w.event)
    | .credential c => client.call scope (.deleteCredential c.domain name)
    | .template t => client.call scope (.deleteTemplate t.domain name)
    | .bounce b => client.call scope (.deleteBounce b.domain name)
    | .complaint c => client.call scope (.deleteComplaint c.domain name)
    | .unsubscribe u => client.call scope (.deleteUnsubscribe u.domain name)
  return gone answer

/-! ## By identifier alone -/

/-- The domain that a scoped kind needs. -/
def requireDomain (kind : ResourceKind) (domain : Option String) : Except CallFailure String :=
  match domain.filter (!·.isEmpty) with
  | some d => .ok d
  | none => .error (.refused "observe" (.invalidRequest ("a domain is required to observe a " ++ Word.word kind)))

/-- Looks a resource up by a call; its state as JSON, if it exists. -/
def lookUpJson (client : Client ρ) (scope : Scope) (call : Call α) :
    Work (World ρ) (Except CallFailure (Option Json)) := do
  let answer ← client.call scope call
  return (found answer).map fun state => state.map call.answerJson

/-- Looks a scoped resource up, when its domain is given. -/
def lookUpScoped (client : Client ρ) (scope : Scope) (kind : ResourceKind) (domain : Option String)
    (call : String → Call α) : Work (World ρ) (Except CallFailure (Option Json)) :=
  match requireDomain kind domain with
  | .ok d => lookUpJson client scope (call d)
  | .error e => .done (.error e)

/-- Observes a resource of a kind by its identifier; its state as JSON, if it exists. -/
def observeById (client : Client ρ) (scope : Scope) (kind : ResourceKind) (domain : Option String) (id : String) :
    Work (World ρ) (Except CallFailure (Option Json)) :=
  match kind with
  | .domain => lookUpJson client scope (.getDomain id)
  | .route => lookUpJson client scope (.getRoute id)
  | .mailingList => lookUpJson client scope (.getMailingList id)
  | .webhook =>
    match (Word.parse? id : Option WebhookEvent) with
    | none => .done (.error (.refused "observe" (.invalidRequest (Word.refusal WebhookEvent id))))
    | some event => lookUpScoped client scope kind domain (.getWebhook · event)
  | .credential => lookUpScoped client scope kind domain (.getCredential · id)
  | .template => lookUpScoped client scope kind domain (.getTemplate · id)
  | .bounce => lookUpScoped client scope kind domain (.getBounce · id)
  | .complaint => lookUpScoped client scope kind domain (.getComplaint · id)
  | .unsubscribe => lookUpScoped client scope kind domain (.getUnsubscribe · id)

end Lifecycle
end MailReconciler
