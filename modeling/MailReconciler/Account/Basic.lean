/-
An account kept in memory that answers the calls of the remote API: missing resources answer 404, duplicates 400, and
suppression entries overwrite. Failures can be put before the next calls.
-/
import MailReconciler.Client.Call
import MailReconciler.Table

namespace MailReconciler

/-- A domain and a name within it. -/
abbrev ScopedName := String × String

/-- The resources of an account and the number of ids given out. -/
structure Holdings where
  domains : Table String DomainState := .empty
  routes : Table String RouteState := .empty
  lists : Table String MailingListState := .empty
  webhooks : Table (String × WebhookEvent) WebhookState := .empty
  /-- Each credential with its password. -/
  credentials : Table ScopedName (CredentialState × String) := .empty
  templates : Table ScopedName TemplateState := .empty
  bounces : Table ScopedName BounceState := .empty
  complaints : Table ScopedName ComplaintState := .empty
  unsubscribes : Table ScopedName UnsubscribeState := .empty
  lastId : Nat := 0
deriving DecidableEq

/-- An account: its resources, the failures put before the next calls, and the calls made to each operation. -/
structure Account where
  holdings : Holdings := {}
  failures : List ApiFailure := []
  calls : Table String Nat := .empty
deriving DecidableEq

namespace Holdings

/-! ## Answers -/

/-- The answer about a missing resource. -/
def missing (method path what : String) : ApiFailure := .status method path 404 (what ++ " not found")

/-- The answer about a resource that is there already. -/
def duplicate (path what : String) : ApiFailure := .status "POST" path 400 (what ++ " already exists")

/-- The value of a key, or the answer that it is missing. -/
def find {κ ν : Type} [DecidableEq κ] (t : Table κ ν) (k : κ) (failure : ApiFailure) : Except ApiFailure ν :=
  match t.get? k with
  | some v => .ok v
  | none => .error failure

/-- Refuses a key that has a value. -/
def requireFree {κ ν : Type} [DecidableEq κ] (t : Table κ ν) (k : κ) (failure : ApiFailure) : Except ApiFailure Unit :=
  if t.has k then .error failure else .ok ()

/-- The identifier of a number: at least twenty-four lower-case hexadecimal digits. -/
def routeId (n : Nat) : String :=
  let digits := Text.hex n
  String.ofList (List.replicate (24 - digits.length) '0') ++ digits

/-- The path of a scoped resource, or of its collection when the name is absent. -/
def domainPath (domain part : String) (name : Option String) : String :=
  "/v3/domains/" ++ domain ++ "/" ++ part ++ name.elim "" ("/" ++ ·)

/-- The path of a template or a suppression entry, or of its collection when the name is absent. -/
def accountPath (domain part : String) (name : Option String) : String :=
  "/v3/" ++ domain ++ "/" ++ part ++ name.elim "" ("/" ++ ·)

/-! ## Observed states -/

/-- The state of a domain when it is created. -/
def newDomain (d : DomainSpec) : DomainState where
  name := d.name
  state := "unverified"
  domainType := "custom"
  smtpLogin := "postmaster@" ++ d.name
  spamAction := d.spamAction
  wildcard := d.wildcard.getD false
  webScheme := d.webScheme

/-- The state of a domain after a change of the settings that are set. -/
def changedDomain (d : DomainSpec) (old : DomainState) : DomainState :=
  { old with
    spamAction := d.spamAction <|> old.spamAction
    wildcard := d.wildcard.getD old.wildcard
    webScheme := d.webScheme <|> old.webScheme }

/-- The state of a route with an id. -/
def routeOf (id : String) (r : RouteSpec) : RouteState where
  id := id
  priority := r.priority
  description := r.description
  expression := r.expression
  actions := r.actions

/-- The state of a mailing list with some members. -/
def listOf (l : MailingListSpec) (members : UInt64) : MailingListState where
  address := l.address
  name := l.name.getD ""
  description := l.description.getD ""
  accessLevel := l.accessLevel
  replyPreference := l.replyPreference
  membersCount := members

/-- The state of a credential. -/
def credentialOf (c : CredentialSpec) : CredentialState where
  login := c.fullLogin
  mailbox := some c.fullLogin

/-- The state of a template with a number. -/
def templateOf (n : Nat) (t : TemplateSpec) : TemplateState where
  id := "tmpl-" ++ toString n
  name := t.name
  description := t.description.getD ""
  version := some {
    tag := t.tag.getD "initial"
    template := t.template
    engine := t.engine.getD "handlebars"
    comment := t.comment.getD ""
    active := true }

/-- The state of a bounce entry. -/
def bounceOf (b : BounceSpec) : BounceState where
  address := b.address
  code := some (toString (b.code.getD 550).toNat)
  error := b.error

/-! ## Operations -/

/-- Carries a call out: its answer and the resources after it, or the failure, which changes nothing. -/
def perform (h : Holdings) {α : Type} : Call α → Except ApiFailure (α × Holdings)
  | .createDomain d => do
    requireFree h.domains d.name (duplicate "/v4/domains" "domain")
    let domain := newDomain d
    return (domain, { h with domains := h.domains.insert d.name domain })
  | .getDomain name => do
    return (← find h.domains name (missing "GET" ("/v4/domains/" ++ name) "domain"), h)
  | .updateDomain name d => do
    let old ← find h.domains name (missing "PUT" ("/v4/domains/" ++ name) "domain")
    return ((), { h with domains := h.domains.insert name (changedDomain d old) })
  | .deleteDomain name => do
    let _ ← find h.domains name (missing "DELETE" ("/v3/domains/" ++ name) "domain")
    return ((), { h with domains := h.domains.erase name })
  | .createRoute r =>
    let n := h.lastId + 1
    let route := routeOf (routeId n) r
    return (route, { h with routes := h.routes.insert route.id route, lastId := n })
  | .getRoute id => do
    return (← find h.routes id (missing "GET" ("/v3/routes/" ++ id) "route"), h)
  | .updateRoute id r => do
    let old ← find h.routes id (missing "PUT" ("/v3/routes/" ++ id) "route")
    let route := { routeOf old.id r with createdAt := old.createdAt }
    return (route, { h with routes := h.routes.insert id route })
  | .deleteRoute id => do
    let _ ← find h.routes id (missing "DELETE" ("/v3/routes/" ++ id) "route")
    return ((), { h with routes := h.routes.erase id })
  | .createMailingList l => do
    requireFree h.lists l.address (duplicate "/v3/lists" "mailing list")
    let list := listOf l 0
    return (list, { h with lists := h.lists.insert l.address list })
  | .getMailingList address => do
    return (← find h.lists address (missing "GET" ("/v3/lists/" ++ address) "mailing list"), h)
  | .updateMailingList address l => do
    let old ← find h.lists address (missing "PUT" ("/v3/lists/" ++ address) "mailing list")
    let list := listOf l old.membersCount
    return (list, { h with lists := (h.lists.erase address).insert list.address list })
  | .deleteMailingList address => do
    let _ ← find h.lists address (missing "DELETE" ("/v3/lists/" ++ address) "mailing list")
    return ((), { h with lists := h.lists.erase address })
  | .createWebhook w => do
    requireFree h.webhooks (w.domain, w.event) (duplicate (domainPath w.domain "webhooks" none) "webhook")
    let webhook : WebhookState := ⟨w.domain, w.event, w.urls⟩
    return (webhook, { h with webhooks := h.webhooks.insert (w.domain, w.event) webhook })
  | .getWebhook domain event => do
    let path := domainPath domain "webhooks" (some (Word.word event))
    return (← find h.webhooks (domain, event) (missing "GET" path "webhook"), h)
  | .updateWebhook w => do
    let path := domainPath w.domain "webhooks" (some (Word.word w.event))
    let old ← find h.webhooks (w.domain, w.event) (missing "PUT" path "webhook")
    let webhook := { old with urls := w.urls }
    return (webhook, { h with webhooks := h.webhooks.insert (w.domain, w.event) webhook })
  | .deleteWebhook domain event => do
    let path := domainPath domain "webhooks" (some (Word.word event))
    let _ ← find h.webhooks (domain, event) (missing "DELETE" path "webhook")
    return ((), { h with webhooks := h.webhooks.erase (domain, event) })
  | .createCredential c => do
    let key := (c.domain, c.fullLogin)
    requireFree h.credentials key (duplicate (domainPath c.domain "credentials" none) "credential")
    return ((), { h with credentials := h.credentials.insert key (credentialOf c, c.password) })
  | .getCredential domain login => do
    let path := domainPath domain "credentials" none
    let found ← find h.credentials (domain, qualifyLogin login domain) (missing "GET" path "credential")
    return (found.1, h)
  | .updatePassword c => do
    let key := (c.domain, c.fullLogin)
    let path := domainPath c.domain "credentials" (some c.login)
    let old ← find h.credentials key (missing "PUT" path "credential")
    return ((), { h with credentials := h.credentials.insert key (old.1, c.password) })
  | .deleteCredential domain login => do
    let key := (domain, qualifyLogin login domain)
    let path := domainPath domain "credentials" (some login)
    let _ ← find h.credentials key (missing "DELETE" path "credential")
    return ((), { h with credentials := h.credentials.erase key })
  | .createTemplate t => do
    requireFree h.templates (t.domain, t.name) (duplicate (accountPath t.domain "templates" none) "template")
    let n := h.lastId + 1
    let template := templateOf n t
    return (template, { h with templates := h.templates.insert (t.domain, t.name) template, lastId := n })
  | .getTemplate domain name => do
    let path := accountPath domain "templates" (some name)
    return (← find h.templates (domain, name) (missing "GET" path "template"), h)
  | .updateTemplate t => do
    let path := accountPath t.domain "templates" (some t.name)
    let old ← find h.templates (t.domain, t.name) (missing "PUT" path "template")
    let template := { old with description := t.description.getD "" }
    return ((), { h with templates := h.templates.insert (t.domain, t.name) template })
  | .deleteTemplate domain name => do
    let path := accountPath domain "templates" (some name)
    let _ ← find h.templates (domain, name) (missing "DELETE" path "template")
    return ((), { h with templates := h.templates.erase (domain, name) })
  | .createBounce b =>
    return ((), { h with bounces := h.bounces.insert (b.domain, b.address) (bounceOf b) })
  | .getBounce domain address => do
    let path := accountPath domain "bounces" (some address)
    return (← find h.bounces (domain, address) (missing "GET" path "address"), h)
  | .deleteBounce domain address => do
    let path := accountPath domain "bounces" (some address)
    let _ ← find h.bounces (domain, address) (missing "DELETE" path "address")
    return ((), { h with bounces := h.bounces.erase (domain, address) })
  | .createComplaint c =>
    return ((), { h with complaints := h.complaints.insert (c.domain, c.address) { address := c.address } })
  | .getComplaint domain address => do
    let path := accountPath domain "complaints" (some address)
    return (← find h.complaints (domain, address) (missing "GET" path "address"), h)
  | .deleteComplaint domain address => do
    let path := accountPath domain "complaints" (some address)
    let _ ← find h.complaints (domain, address) (missing "DELETE" path "address")
    return ((), { h with complaints := h.complaints.erase (domain, address) })
  | .createUnsubscribe u =>
    let entry : UnsubscribeState := { address := u.address, tags := u.effectiveTags }
    return ((), { h with unsubscribes := h.unsubscribes.insert (u.domain, u.address) entry })
  | .getUnsubscribe domain address => do
    let path := accountPath domain "unsubscribes" (some address)
    return (← find h.unsubscribes (domain, address) (missing "GET" path "address"), h)
  | .deleteUnsubscribe domain address => do
    let path := accountPath domain "unsubscribes" (some address)
    let _ ← find h.unsubscribes (domain, address) (missing "DELETE" path "address")
    return ((), { h with unsubscribes := h.unsubscribes.erase (domain, address) })

end Holdings

namespace Account

/-- The check that a call makes of its own parameters before it is counted; only creations have one. -/
def check {α : Type} : Call α → Except ApiFailure Unit
  | .createDomain d => d.check
  | .createRoute r => r.check
  | .createMailingList l => l.check
  | .createWebhook w => w.check
  | .createCredential c => c.check
  | .createTemplate t => t.check
  | .createBounce b => b.check
  | .createComplaint c => c.check
  | .createUnsubscribe u => u.check
  | _ => .ok ()

/-- Calls made to an operation, failed ones included. -/
def callsTo (a : Account) (operation : String) : Nat := (a.calls.get? operation).getD 0

/-- Calls made to all operations. -/
def totalCalls (a : Account) : Nat := a.calls.entries.foldl (fun total entry => total + entry.2) 0

/-- Counts a call to an operation. -/
def countCall (a : Account) (operation : String) : Account :=
  { a with calls := a.calls.insert operation (a.callsTo operation + 1) }

/-- Answers a call: refused parameters change nothing; else the call is counted, and the next failure put before it
comes first. -/
def answer {α : Type} (a : Account) (call : Call α) : Except ApiFailure α × Account :=
  match check call with
  | .error e => (.error e, a)
  | .ok () =>
    let counted := a.countCall call.name
    match a.failures with
    | e :: rest => (.error e, { counted with failures := rest })
    | [] =>
      match a.holdings.perform call with
      | .error e => (.error e, counted)
      | .ok (value, holdings) => (.ok value, { counted with holdings })

/-- Puts `n` failures behind those that wait. -/
def failNext (a : Account) (n : Nat) (e : ApiFailure) : Account :=
  { a with failures := a.failures ++ List.replicate n e }

/-- The password of a credential. -/
def password? (a : Account) (domain login : String) : Option String :=
  (a.holdings.credentials.get? (domain, qualifyLogin login domain)).map (·.2)

/-- The service of an account: it answers every call at once. -/
def service : Service Account where
  perform call := .step fun _ a => a.answer call

end Account
end MailReconciler
