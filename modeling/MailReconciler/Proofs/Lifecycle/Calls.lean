/-
The calls behind the life of a resource. To observe a resource, by its external name or by its identifier alone, is to
look it up at one place, and to delete it is to clear that place; which place this is, is said here once for all kinds.
-/
import MailReconciler.Lifecycle.Basic
import MailReconciler.Proofs.Account.Place
import MailReconciler.Proofs.Work.Running

namespace MailReconciler

/-! ## Places -/

/-- The place of a desired resource under its external name. -/
def Desired.place (name : String) : Desired → Place
  | .domain _ => .domain name
  | .route _ => .route name
  | .mailingList _ => .mailingList name
  | .webhook w => .webhook w.domain w.event
  | .credential c => .credential c.domain name
  | .template t => .template t.domain name
  | .bounce b => .bounce b.domain name
  | .complaint c => .complaint c.domain name
  | .unsubscribe u => .unsubscribe u.domain name

/-- Whether an observed resource is as desired. -/
def Desired.metBy : Desired → Observed → Bool
  | .domain d, .domain state => DomainSpec.metBy d state
  | .route r, .route state => RouteSpec.metBy r state
  | .mailingList l, .mailingList state => MailingListSpec.metBy l state
  | .webhook w, .webhook state => WebhookSpec.metBy w state
  | .credential _, .credential _ => true
  | .template t, .template state => TemplateSpec.metBy t state
  | .bounce b, .bounce state => BounceSpec.metBy b state
  | .complaint _, .complaint _ => true
  | .unsubscribe u, .unsubscribe state => UnsubscribeSpec.metBy u state
  | _, _ => false

namespace Place

/-- What stands at a place as its kind shows it. -/
def observed : (p : Place) → p.State → Observed
  | .domain _ => .domain
  | .route _ => .route
  | .mailingList _ => .mailingList
  | .webhook _ _ => .webhook
  | .credential _ _ => .credential
  | .template _ _ => .template
  | .bounce _ _ => .bounce
  | .complaint _ _ => .complaint
  | .unsubscribe _ _ => .unsubscribe

/-- The place of a resource that is known by its identifier alone; none if the identifier cannot be read or a domain is
missing. -/
def ofId? (kind : ResourceKind) (domain : Option String) (id : String) : Option Place :=
  match kind with
  | .domain => some (.domain id)
  | .route => some (.route id)
  | .mailingList => some (.mailingList id)
  | .webhook =>
    (Word.parse? id : Option WebhookEvent).bind fun event => (domain.filter (!·.isEmpty)).map (.webhook · event)
  | .credential => (domain.filter (!·.isEmpty)).map (.credential · id)
  | .template => (domain.filter (!·.isEmpty)).map (.template · id)
  | .bounce => (domain.filter (!·.isEmpty)).map (.bounce · id)
  | .complaint => (domain.filter (!·.isEmpty)).map (.complaint · id)
  | .unsubscribe => (domain.filter (!·.isEmpty)).map (.unsubscribe · id)

theorem answerJson_get (p : Place) (state : p.State) : p.get.answerJson state = (p.observed state).toJson := by
  cases p <;> rfl

end Place

namespace Lifecycle

variable {ρ α : Type} (client : Client ρ) (scope : Scope)

/-! ## Programs -/

/-- To observe a resource that has a name is to look it up at its place. -/
theorem observe_eq {name : String} (h : name.isEmpty = false) (desired : Desired) :
    observe client scope name desired = lookUp client scope (desired.place name).get (desired.place name).observed
      fun state => desired.metBy ((desired.place name).observed state) := by
  unfold observe
  rw [h]
  cases desired <;> rfl

/-- To delete a resource is to clear its place. -/
theorem delete_eq (name : String) (desired : Desired) : delete client scope name desired =
    (client.call scope (desired.place name).delete).bind fun answer => .done (gone answer) := by
  cases desired <;> rfl

variable {kind : ResourceKind} {domain : Option String} {id : String}

theorem lookUpScoped_of_some {d : String} (h : domain.filter (!·.isEmpty) = some d) (call : String → Call α) :
    lookUpScoped client scope kind domain call = lookUpJson client scope (call d) := by
  unfold lookUpScoped requireDomain
  rw [h]

theorem lookUpScoped_of_none (h : domain.filter (!·.isEmpty) = none) (call : String → Call α) :
    ∃ e, lookUpScoped client scope kind domain call = .done (.error e) := by
  unfold lookUpScoped requireDomain
  rw [h]
  exact ⟨_, rfl⟩

/-- To observe a resource by its identifier is to look it up at its place. -/
theorem observeById_of_some {p : Place} (h : Place.ofId? kind domain id = some p) :
    observeById client scope kind domain id = lookUpJson client scope p.get := by
  unfold Place.ofId? at h
  unfold observeById
  cases kind with
  | domain => cases h; rfl
  | route => cases h; rfl
  | mailingList => cases h; rfl
  | webhook =>
    obtain ⟨event, hevent, h⟩ := Option.bind_eq_some_iff.1 h
    obtain ⟨d, hd, rfl⟩ := Option.map_eq_some_iff.1 h
    simp only [hevent]
    exact lookUpScoped_of_some client scope hd _
  | credential | template | bounce | complaint | unsubscribe =>
    obtain ⟨d, hd, rfl⟩ := Option.map_eq_some_iff.1 h
    exact lookUpScoped_of_some client scope hd _

/-- Without a place the observation is refused. -/
theorem observeById_of_none (h : Place.ofId? kind domain id = none) :
    ∃ e, observeById client scope kind domain id = .done (.error e) := by
  unfold Place.ofId? at h
  unfold observeById
  cases kind with
  | domain => cases h
  | route => cases h
  | mailingList => cases h
  | webhook =>
    cases hevent : (Word.parse? id : Option WebhookEvent) with
    | none => exact ⟨_, rfl⟩
    | some event =>
      rw [hevent] at h
      exact lookUpScoped_of_none client scope (Option.map_eq_none_iff.1 h) _
  | credential | template | bounce | complaint | unsubscribe =>
    exact lookUpScoped_of_none client scope (Option.map_eq_none_iff.1 h) _

/-! ## Failures -/

theorem map_found_error {β : Type} (f : CallFailure) (g : Option α → β) :
    (found (.error f)).map g = if f.isNotFound then .ok (g none) else .error f := by
  cases hf : f.isNotFound <;> simp [found, hf, Except.map]

theorem gone_error (f : CallFailure) : gone (.error f) = if f.isNotFound then .ok () else .error f := rfl

/-! ## Runs -/

variable {client scope} {call : Call α} {now t : Instant} {w w' : World ρ} {answer : Except CallFailure α}

theorem run_lookUp (h : (client.call scope call).run now w = some (answer, t, w')) (observed : α → Observed)
    (upToDate : α → Bool) : (lookUp client scope call observed upToDate).run now w =
      some ((found answer).map fun
        | none => .absent
        | some state => .present (upToDate state) (observed state), t, w') :=
  Work.run_bind_of_some _ h

theorem run_lookUpJson (h : (client.call scope call).run now w = some (answer, t, w')) :
    (lookUpJson client scope call).run now w =
      some ((found answer).map fun state => state.map call.answerJson, t, w') :=
  Work.run_bind_of_some _ h

/-- What succeeds with a changed answer has succeeded with an answer. -/
theorem of_run_map {β : Type} {work : Work (World ρ) (Except CallFailure α)} {f : α → β} {b : β}
    (h : (work.bind fun answer => .done (answer.map f)).run now w = some (.ok b, t, w')) :
    ∃ a, work.run now w = some (.ok a, t, w') ∧ f a = b := by
  rw [Work.run_bind] at h
  obtain ⟨⟨answer, t', w₁⟩, hrun, hdone⟩ := Option.bind_eq_some_iff.1 h
  cases answer with
  | error f => cases hdone
  | ok a =>
    cases hdone
    exact ⟨a, hrun, rfl⟩

/-- Work that succeeds behind a check has passed it. -/
theorem of_run_checked {operation : String} {check : Except ApiFailure Unit}
    {work : Work (World ρ) (Except CallFailure α)} {a : α}
    (h : (checked operation check work).run now w = some (.ok a, t, w')) :
    check = .ok () ∧ work.run now w = some (.ok a, t, w') := by
  cases check with
  | error e => cases h
  | ok _ => exact ⟨rfl, h⟩

theorem run_delete {name : String} {desired : Desired} {answer : Except CallFailure Unit}
    (h : (client.call scope (desired.place name).delete).run now w = some (answer, t, w')) :
    (delete client scope name desired).run now w = some (gone answer, t, w') := by
  rw [delete_eq]
  exact Work.run_bind_of_some _ h

end Lifecycle
end MailReconciler
