/-
Places of resources in an account. A place is where a resource is looked for: the name or identifier of its kind, with
its domain if the kind is scoped. At most one resource stands at a place; to get it answers what stands there, to delete
it clears the place, and about an empty place the answer is that the resource is missing.
-/
import MailReconciler.Account.Basic

namespace MailReconciler

/-- Where a resource is looked for. -/
inductive Place where
  | domain (name : String)
  | route (id : String)
  | mailingList (address : String)
  | webhook (domain : String) (event : WebhookEvent)
  /-- The login may be short of the domain. -/
  | credential (domain login : String)
  | template (domain name : String)
  | bounce (domain address : String)
  | complaint (domain address : String)
  | unsubscribe (domain address : String)
deriving DecidableEq

namespace Place

/-- What a resource at a place shows of itself. -/
def State : Place → Type
  | .domain _ => DomainState
  | .route _ => RouteState
  | .mailingList _ => MailingListState
  | .webhook _ _ => WebhookState
  | .credential _ _ => CredentialState
  | .template _ _ => TemplateState
  | .bounce _ _ => BounceState
  | .complaint _ _ => ComplaintState
  | .unsubscribe _ _ => UnsubscribeState

/-- The call that looks a resource up. -/
def get : (p : Place) → Call p.State
  | .domain name => .getDomain name
  | .route id => .getRoute id
  | .mailingList address => .getMailingList address
  | .webhook d event => .getWebhook d event
  | .credential d login => .getCredential d login
  | .template d name => .getTemplate d name
  | .bounce d address => .getBounce d address
  | .complaint d address => .getComplaint d address
  | .unsubscribe d address => .getUnsubscribe d address

/-- The call that removes a resource. -/
def delete : Place → Call Unit
  | .domain name => .deleteDomain name
  | .route id => .deleteRoute id
  | .mailingList address => .deleteMailingList address
  | .webhook d event => .deleteWebhook d event
  | .credential d login => .deleteCredential d login
  | .template d name => .deleteTemplate d name
  | .bounce d address => .deleteBounce d address
  | .complaint d address => .deleteComplaint d address
  | .unsubscribe d address => .deleteUnsubscribe d address

/-- What a resource is called in answers about a missing one. -/
def what : Place → String
  | .domain _ => "domain"
  | .route _ => "route"
  | .mailingList _ => "mailing list"
  | .webhook _ _ => "webhook"
  | .credential _ _ => "credential"
  | .template _ _ => "template"
  | .bounce _ _ | .complaint _ _ | .unsubscribe _ _ => "address"

theorem check_get (p : Place) : Account.check p.get = .ok () := by cases p <;> rfl

theorem check_delete (p : Place) : Account.check p.delete = .ok () := by cases p <;> rfl

end Place

namespace Holdings

/-- The resource at a place. -/
def at? (h : Holdings) : (p : Place) → Option p.State
  | .domain name => h.domains.get? name
  | .route id => h.routes.get? id
  | .mailingList address => h.lists.get? address
  | .webhook d event => h.webhooks.get? (d, event)
  | .credential d login => (h.credentials.get? (d, qualifyLogin login d)).map (·.1)
  | .template d name => h.templates.get? (d, name)
  | .bounce d address => h.bounces.get? (d, address)
  | .complaint d address => h.complaints.get? (d, address)
  | .unsubscribe d address => h.unsubscribes.get? (d, address)

/-- The same resources but for the one at a place. -/
def without (h : Holdings) : Place → Holdings
  | .domain name => { h with domains := h.domains.erase name }
  | .route id => { h with routes := h.routes.erase id }
  | .mailingList address => { h with lists := h.lists.erase address }
  | .webhook d event => { h with webhooks := h.webhooks.erase (d, event) }
  | .credential d login => { h with credentials := h.credentials.erase (d, qualifyLogin login d) }
  | .template d name => { h with templates := h.templates.erase (d, name) }
  | .bounce d address => { h with bounces := h.bounces.erase (d, address) }
  | .complaint d address => { h with complaints := h.complaints.erase (d, address) }
  | .unsubscribe d address => { h with unsubscribes := h.unsubscribes.erase (d, address) }

@[simp] theorem at?_without_self (h : Holdings) (p : Place) : (h.without p).at? p = none := by
  cases p <;> simp [at?, without] <;> rfl

theorem erase_of_none {κ ν : Type} [DecidableEq κ] {t : Table κ ν} {k : κ} (h : t.get? k = none) : t.erase k = t := by
  obtain ⟨entries⟩ := t
  have hfind := Option.map_eq_none_iff.1 h
  rw [List.find?_eq_none] at hfind
  unfold Table.erase
  rw [List.filter_eq_self.2]
  intro entry hentry
  exact decide_eq_true fun hk => hfind entry hentry (decide_eq_true hk)

theorem without_of_none {h : Holdings} {p : Place} (hp : h.at? p = none) : h.without p = h := by
  -- credentials stand apart, because they are kept together with their passwords
  cases p with
  | credential d login =>
    simp only [without, erase_of_none (Option.map_eq_none_iff.1 hp)]
  | domain _ | route _ | mailingList _ | webhook _ _ | template _ _ | bounce _ _ | complaint _ _ | unsubscribe _ _ =>
    simp only [without, erase_of_none hp]

/-! ## Calls -/

variable {κ ν : Type} [DecidableEq κ] {t : Table κ ν} {k : κ} {v : ν} {failure : ApiFailure}

theorem find_of_some (h : t.get? k = some v) : find t k failure = .ok v := by
  unfold find
  rw [h]

theorem find_of_none (h : t.get? k = none) : find t k failure = .error failure := by
  unfold find
  rw [h]

theorem perform_get_of_some {h : Holdings} {p : Place} {state : p.State} (hp : h.at? p = some state) :
    h.perform p.get = .ok (state, h) := by
  cases p with
  | credential d login =>
    obtain ⟨found, hfound, rfl⟩ := Option.map_eq_some_iff.1 hp
    simp only [Place.get, perform, find_of_some hfound]
    rfl
  | domain _ | route _ | mailingList _ | webhook _ _ | template _ _ | bounce _ _ | complaint _ _ | unsubscribe _ _ =>
    simp only [Place.get, perform, find_of_some hp]
    rfl

theorem perform_get_of_none {h : Holdings} {p : Place} (hp : h.at? p = none) :
    ∃ path, h.perform p.get = .error (missing "GET" path p.what) := by
  cases p with
  | credential d login =>
    simp only [Place.get, perform, find_of_none (Option.map_eq_none_iff.1 hp)]
    exact ⟨_, rfl⟩
  | domain _ | route _ | mailingList _ | webhook _ _ | template _ _ | bounce _ _ | complaint _ _ | unsubscribe _ _ =>
    simp only [Place.get, perform, find_of_none hp]
    exact ⟨_, rfl⟩

theorem perform_delete_of_some {h : Holdings} {p : Place} {state : p.State} (hp : h.at? p = some state) :
    h.perform p.delete = .ok ((), h.without p) := by
  cases p with
  | credential d login =>
    obtain ⟨found, hfound, -⟩ := Option.map_eq_some_iff.1 hp
    simp only [Place.delete, perform, find_of_some hfound]
    rfl
  | domain _ | route _ | mailingList _ | webhook _ _ | template _ _ | bounce _ _ | complaint _ _ | unsubscribe _ _ =>
    simp only [Place.delete, perform, find_of_some hp]
    rfl

theorem perform_delete_of_none {h : Holdings} {p : Place} (hp : h.at? p = none) :
    ∃ path, h.perform p.delete = .error (missing "DELETE" path p.what) := by
  cases p with
  | credential d login =>
    simp only [Place.delete, perform, find_of_none (Option.map_eq_none_iff.1 hp)]
    exact ⟨_, rfl⟩
  | domain _ | route _ | mailingList _ | webhook _ _ | template _ _ | bounce _ _ | complaint _ _ | unsubscribe _ _ =>
    simp only [Place.delete, perform, find_of_none hp]
    exact ⟨_, rfl⟩

end Holdings
end MailReconciler
