/-
Calls that are answered in place. Here an account changes its resources step by step, in the order in which the work is
done, and a failure undoes nothing: what is deleted is taken out before it is clear whether it was there, and so is a
mailing list that is changed; a new route or template has taken its number before it is put away. The account answers
these calls as it answers them in one go (`answerInPlace_eq`): wherever a call can fail, nothing has been changed yet.
-/
import MailReconciler.Proofs.Account.Answer
import MailReconciler.Proofs.Account.Place

namespace MailReconciler

/-! ## Steps -/

/-- Work that changes a state as it goes. A failure ends it, and leaves the state that was reached. -/
abbrev Steps (σ : Type) : Type → Type := ExceptT ApiFailure (StateM σ)

namespace Steps

variable {σ α β : Type} {x : Steps σ α} {f : α → Steps σ β} {s s' : σ} {a : α} {e : ApiFailure}

theorem bind_of_ok (h : x s = (.ok a, s')) : (x >>= f) s = f a s' := by
  show (ExceptT.bind x f) s = _
  simp only [ExceptT.bind, ExceptT.mk, bind, StateT.bind, h]
  rfl

theorem bind_of_error (h : x s = (.error e, s')) : (x >>= f) s = (.error e, s') := by
  show (ExceptT.bind x f) s = _
  simp only [ExceptT.bind, ExceptT.mk, bind, StateT.bind, h]
  rfl

end Steps

/-! ## Tables as parts of the resources -/

/-- One of the tables of an account. -/
structure Drawer (κ ν : Type) where
  table : Holdings → Table κ ν
  store : Table κ ν → Holdings → Holdings
  store_table : ∀ h, store (table h) h = h

namespace Drawer

def domains : Drawer String DomainState := ⟨(·.domains), fun t h => { h with domains := t }, fun _ => rfl⟩

def routes : Drawer String RouteState := ⟨(·.routes), fun t h => { h with routes := t }, fun _ => rfl⟩

def lists : Drawer String MailingListState := ⟨(·.lists), fun t h => { h with lists := t }, fun _ => rfl⟩

def webhooks : Drawer (String × WebhookEvent) WebhookState :=
  ⟨(·.webhooks), fun t h => { h with webhooks := t }, fun _ => rfl⟩

def credentials : Drawer ScopedName (CredentialState × String) :=
  ⟨(·.credentials), fun t h => { h with credentials := t }, fun _ => rfl⟩

def templates : Drawer ScopedName TemplateState := ⟨(·.templates), fun t h => { h with templates := t }, fun _ => rfl⟩

def bounces : Drawer ScopedName BounceState := ⟨(·.bounces), fun t h => { h with bounces := t }, fun _ => rfl⟩

def complaints : Drawer ScopedName ComplaintState :=
  ⟨(·.complaints), fun t h => { h with complaints := t }, fun _ => rfl⟩

def unsubscribes : Drawer ScopedName UnsubscribeState :=
  ⟨(·.unsubscribes), fun t h => { h with unsubscribes := t }, fun _ => rfl⟩

variable {κ ν : Type} [DecidableEq κ] (s : Drawer κ ν)

/-- The value of a key, which stays where it is. -/
def find (k : κ) (failure : ApiFailure) : Steps Holdings ν := fun h => (Holdings.find (s.table h) k failure, h)

/-- Takes the value of a key out. The key is cleared before it is clear whether it had one. -/
def takeOut (k : κ) (failure : ApiFailure) : Steps Holdings ν := fun h =>
  (Holdings.find (s.table h) k failure, s.store ((s.table h).erase k) h)

/-- Refuses a key that has a value. -/
def requireFree (k : κ) (failure : ApiFailure) : Steps Holdings Unit := fun h =>
  (Holdings.requireFree (s.table h) k failure, h)

/-- Gives a key a value. -/
def put (k : κ) (v : ν) : Steps Holdings Unit := fun h => (.ok (), s.store ((s.table h).insert k v) h)

end Drawer

/-- Gives the next number out. -/
def takeNumber : Steps Holdings Nat := fun h => (.ok (h.lastId + 1), { h with lastId := h.lastId + 1 })

/-! ## Operations -/

namespace Call

open Drawer
open Holdings (missing duplicate domainPath accountPath routeId newDomain changedDomain routeOf listOf credentialOf
  templateOf bounceOf)

/-- Carries a call out in place. -/
def carryOut {α : Type} : Call α → Steps Holdings α
  | .createDomain d => do
    domains.requireFree d.name (duplicate "/v4/domains" "domain")
    domains.put d.name (newDomain d)
    return newDomain d
  | .getDomain name => domains.find name (missing "GET" ("/v4/domains/" ++ name) "domain")
  | .updateDomain name d => do
    let old ← domains.find name (missing "PUT" ("/v4/domains/" ++ name) "domain")
    domains.put name (changedDomain d old)
  | .deleteDomain name => do
    let _ ← domains.takeOut name (missing "DELETE" ("/v3/domains/" ++ name) "domain")
  | .createRoute r => do
    let n ← takeNumber
    let route := routeOf (routeId n) r
    routes.put route.id route
    return route
  | .getRoute id => routes.find id (missing "GET" ("/v3/routes/" ++ id) "route")
  | .updateRoute id r => do
    let old ← routes.find id (missing "PUT" ("/v3/routes/" ++ id) "route")
    let route := { routeOf old.id r with createdAt := old.createdAt }
    routes.put id route
    return route
  | .deleteRoute id => do
    let _ ← routes.takeOut id (missing "DELETE" ("/v3/routes/" ++ id) "route")
  | .createMailingList l => do
    lists.requireFree l.address (duplicate "/v3/lists" "mailing list")
    lists.put l.address (listOf l 0)
    return listOf l 0
  | .getMailingList address => lists.find address (missing "GET" ("/v3/lists/" ++ address) "mailing list")
  | .updateMailingList address l => do
    let old ← lists.takeOut address (missing "PUT" ("/v3/lists/" ++ address) "mailing list")
    let list := listOf l old.membersCount
    lists.put list.address list
    return list
  | .deleteMailingList address => do
    let _ ← lists.takeOut address (missing "DELETE" ("/v3/lists/" ++ address) "mailing list")
  | .createWebhook w => do
    webhooks.requireFree (w.domain, w.event) (duplicate (domainPath w.domain "webhooks" none) "webhook")
    webhooks.put (w.domain, w.event) ⟨w.domain, w.event, w.urls⟩
    return ⟨w.domain, w.event, w.urls⟩
  | .getWebhook domain event =>
    webhooks.find (domain, event) (missing "GET" (domainPath domain "webhooks" (some (Word.word event))) "webhook")
  | .updateWebhook w => do
    let path := domainPath w.domain "webhooks" (some (Word.word w.event))
    let old ← webhooks.find (w.domain, w.event) (missing "PUT" path "webhook")
    let webhook := { old with urls := w.urls }
    webhooks.put (w.domain, w.event) webhook
    return webhook
  | .deleteWebhook domain event => do
    let path := domainPath domain "webhooks" (some (Word.word event))
    let _ ← webhooks.takeOut (domain, event) (missing "DELETE" path "webhook")
  | .createCredential c => do
    let key := (c.domain, c.fullLogin)
    credentials.requireFree key (duplicate (domainPath c.domain "credentials" none) "credential")
    credentials.put key (credentialOf c, c.password)
  | .getCredential domain login => do
    let path := domainPath domain "credentials" none
    let found ← credentials.find (domain, qualifyLogin login domain) (missing "GET" path "credential")
    return found.1
  | .updatePassword c => do
    let key := (c.domain, c.fullLogin)
    let path := domainPath c.domain "credentials" (some c.login)
    let old ← credentials.find key (missing "PUT" path "credential")
    credentials.put key (old.1, c.password)
  | .deleteCredential domain login => do
    let path := domainPath domain "credentials" (some login)
    let _ ← credentials.takeOut (domain, qualifyLogin login domain) (missing "DELETE" path "credential")
  | .createTemplate t => do
    templates.requireFree (t.domain, t.name) (duplicate (accountPath t.domain "templates" none) "template")
    let n ← takeNumber
    let template := templateOf n t
    templates.put (t.domain, t.name) template
    return template
  | .getTemplate domain name =>
    templates.find (domain, name) (missing "GET" (accountPath domain "templates" (some name)) "template")
  | .updateTemplate t => do
    let path := accountPath t.domain "templates" (some t.name)
    let old ← templates.find (t.domain, t.name) (missing "PUT" path "template")
    templates.put (t.domain, t.name) { old with description := t.description.getD "" }
  | .deleteTemplate domain name => do
    let _ ← templates.takeOut (domain, name)
      (missing "DELETE" (accountPath domain "templates" (some name)) "template")
  | .createBounce b => bounces.put (b.domain, b.address) (bounceOf b)
  | .getBounce domain address =>
    bounces.find (domain, address) (missing "GET" (accountPath domain "bounces" (some address)) "address")
  | .deleteBounce domain address => do
    let _ ← bounces.takeOut (domain, address)
      (missing "DELETE" (accountPath domain "bounces" (some address)) "address")
  | .createComplaint c => complaints.put (c.domain, c.address) { address := c.address }
  | .getComplaint domain address =>
    complaints.find (domain, address) (missing "GET" (accountPath domain "complaints" (some address)) "address")
  | .deleteComplaint domain address => do
    let _ ← complaints.takeOut (domain, address)
      (missing "DELETE" (accountPath domain "complaints" (some address)) "address")
  | .createUnsubscribe u => unsubscribes.put (u.domain, u.address) { address := u.address, tags := u.effectiveTags }
  | .getUnsubscribe domain address =>
    unsubscribes.find (domain, address) (missing "GET" (accountPath domain "unsubscribes" (some address)) "address")
  | .deleteUnsubscribe domain address => do
    let _ ← unsubscribes.takeOut (domain, address)
      (missing "DELETE" (accountPath domain "unsubscribes" (some address)) "address")

end Call

/-! ## In one go -/

namespace Holdings

/-- The answer and the resources after a call that is carried out in one go: a failure leaves them as they were. -/
def settled {α : Type} (h : Holdings) : Except ApiFailure (α × Holdings) → Except ApiFailure α × Holdings
  | .ok (value, h') => (.ok value, h')
  | .error e => (.error e, h)

variable {κ ν α : Type} [DecidableEq κ] {h h₁ : Holdings}

/-- Work in place settles as work in one go does, if its first step has changed nothing where it fails. -/
theorem bind_eq_settled {x : Steps Holdings ν} {first : Except ApiFailure ν} {g : ν → Steps Holdings α}
    {f : ν → Except ApiFailure (α × Holdings)} (hx : x h = (first, h₁)) (herror : ∀ e, first = .error e → h₁ = h)
    (hok : ∀ v, g v h₁ = settled h (f v)) : (x >>= g) h = settled h (first >>= f) := by
  cases first with
  | ok v => exact (Steps.bind_of_ok hx).trans (hok v)
  | error e => exact (Steps.bind_of_error hx).trans (by rw [herror e rfl]; rfl)

theorem find_eq_settled {s : Drawer κ ν} {k : κ} {failure : ApiFailure} :
    s.find k failure h = settled h (do return (← find (s.table h) k failure, h)) := by
  unfold Drawer.find
  cases find (s.table h) k failure <;> rfl

theorem takeOut_bind_eq_settled {s : Drawer κ ν} {k : κ} {failure : ApiFailure} {g : ν → Steps Holdings α}
    {f : ν → Except ApiFailure (α × Holdings)}
    (hok : ∀ v, g v (s.store ((s.table h).erase k) h) = settled h (f v)) :
    (s.takeOut k failure >>= g) h = settled h (find (s.table h) k failure >>= f) := by
  refine bind_eq_settled rfl (fun e he => ?_) hok
  -- to take nothing out changes nothing
  cases hk : (s.table h).get? k with
  | none => rw [erase_of_none hk, s.store_table]
  | some v => rw [find_of_some hk] at he; cases he

theorem carryOut_eq (call : Call α) (h : Holdings) : call.carryOut h = settled h (h.perform call) := by
  cases call with
  | createRoute _ | createBounce _ | createComplaint _ | createUnsubscribe _ => rfl
  | createDomain _ | createMailingList _ | createWebhook _ | createCredential _ | createTemplate _
  | updateDomain _ _ | updateRoute _ _ | updateWebhook _ | updatePassword _ | updateTemplate _ | getCredential _ _ =>
    exact bind_eq_settled rfl (fun _ _ => rfl) fun _ => rfl
  | getDomain _ | getRoute _ | getMailingList _ | getWebhook _ _ | getTemplate _ _ | getBounce _ _
  | getComplaint _ _ | getUnsubscribe _ _ =>
    exact find_eq_settled
  | deleteDomain _ | deleteRoute _ | deleteMailingList _ | deleteWebhook _ _ | deleteCredential _ _
  | deleteTemplate _ _ | deleteBounce _ _ | deleteComplaint _ _ | deleteUnsubscribe _ _ | updateMailingList _ _ =>
    exact takeOut_bind_eq_settled fun _ => rfl

end Holdings

/-! ## Answers -/

namespace Account

/-- Counts a call. -/
def enter (operation : String) : Steps Account Unit := fun a => (.ok (), a.countCall operation)

/-- Fails with the next failure that is put before a call, and takes it off. -/
def takeFailure : Steps Account Unit := fun a =>
  match a.failures with
  | [] => (.ok (), a)
  | e :: rest => (.error e, { a with failures := rest })

variable {a : Account}

theorem takeFailure_of_nil (hf : a.failures = []) : takeFailure a = (.ok (), a) := by
  simp only [takeFailure, hf]

theorem takeFailure_of_cons {e : ApiFailure} {rest : List ApiFailure} (hf : a.failures = e :: rest) :
    takeFailure a = (.error e, { a with failures := rest }) := by
  simp only [takeFailure, hf]

/-- Work at the resources of an account. -/
def atHoldings {α : Type} (x : Steps Holdings α) : Steps Account α := fun a =>
  ((x a.holdings).1, { a with holdings := (x a.holdings).2 })

/-- Answers a call in place. -/
def answerInPlace {α : Type} (call : Call α) : Steps Account α := do
  ExceptT.mk (pure (check call))
  enter call.name
  takeFailure
  atHoldings call.carryOut

theorem answerInPlace_eq {α : Type} (call : Call α) (a : Account) : answerInPlace call a = a.answer call := by
  cases hc : check call with
  | error e =>
    rw [answer_of_refused hc]
    exact Steps.bind_of_error (congrArg (·, a) hc)
  | ok _ =>
    have hentered : answerInPlace call a =
        (takeFailure >>= fun _ => atHoldings call.carryOut) (a.countCall call.name) :=
      (Steps.bind_of_ok (congrArg (·, a) hc)).trans (Steps.bind_of_ok rfl)
    refine hentered.trans ?_
    cases hf : a.failures with
    | cons e rest =>
      rw [answer_of_injected hc hf]
      exact Steps.bind_of_error (takeFailure_of_cons hf)
    | nil =>
      have hready : takeFailure (a.countCall call.name) = (.ok (), a.countCall call.name) := takeFailure_of_nil hf
      refine (Steps.bind_of_ok hready).trans ?_
      unfold atHoldings
      rw [Holdings.carryOut_eq, countCall_holdings]
      cases hp : a.holdings.perform call with
      | error e => exact (answer_of_failed hc hf hp).symm
      | ok done => exact (answer_of_carriedOut hc hf hp).symm

end Account
end MailReconciler
