/-
Resources that are made as desired. A creation that succeeds puts a resource at the place that its answer names, where
none was unless the kind is overwritten, and nowhere else; the resource is as desired, whatever settings are left to the
API. So it is observed as such, and deleted without a trace.
-/
import MailReconciler.Proofs.Account.Order
import MailReconciler.Proofs.Lifecycle.Absence

namespace MailReconciler

/-! ## States as desired -/

section Settings

variable {α : Type} [BEq α] [ReflBEq α]

theorem all_some_beq_self (o : Option α) : o.all (some · == o) = true := by
  cases o with
  | none => rfl
  | some a => exact beq_self_eq_true (some a)

theorem all_some_beq_orElse (o other : Option α) : o.all (some · == (o <|> other)) = true := by
  cases o with
  | none => rfl
  | some a => exact beq_self_eq_true (some a)

theorem all_beq_getD (o : Option α) (other : α) : o.all (· == o.getD other) = true := by
  cases o with
  | none => rfl
  | some a => exact beq_self_eq_true a

end Settings

theorem sameTexts_self (texts : List String) : sameTexts texts texts = true := by
  unfold sameTexts
  rw [Bool.and_self, List.all_eq_true]
  intro text htext
  exact List.contains_iff_mem.2 htext

theorem DomainSpec.metBy_newDomain (d : DomainSpec) : d.metBy (Holdings.newDomain d) = true := by
  unfold metBy Holdings.newDomain
  simp only [all_some_beq_self, all_beq_getD, Bool.and_self]

theorem DomainSpec.metBy_changedDomain (d : DomainSpec) (old : DomainState) :
    d.metBy (Holdings.changedDomain d old) = true := by
  unfold metBy Holdings.changedDomain
  simp only [all_some_beq_orElse, all_beq_getD, Bool.and_self]

theorem RouteSpec.metBy_routeOf (r : RouteSpec) (id : String) (createdAt : Option String) :
    r.metBy { Holdings.routeOf id r with createdAt } = true := by
  unfold metBy Holdings.routeOf
  simp only [beq_self_eq_true, Bool.and_self]

theorem MailingListSpec.metBy_listOf (l : MailingListSpec) (members : UInt64) :
    l.metBy (Holdings.listOf l members) = true := by
  unfold metBy Holdings.listOf
  simp only [beq_self_eq_true, all_some_beq_self, all_beq_getD, Bool.and_self]

theorem TemplateSpec.metBy_description (t : TemplateSpec) (old : TemplateState) :
    t.metBy { old with description := t.description.getD "" } = true :=
  all_beq_getD t.description ""

theorem BounceSpec.metBy_bounceOf (b : BounceSpec) : b.metBy (Holdings.bounceOf b) = true := by
  unfold metBy Holdings.bounceOf
  cases b.code <;> cases b.error <;> simp only [Option.all_none, Option.all_some, Option.getD_some, beq_self_eq_true,
    Bool.and_self]

/-- Whether what is kept at the place of a resource is as desired. -/
def Desired.MetAt (desired : Desired) (name : String) (kept : (desired.place name).Kept) : Prop :=
  desired.metBy ((desired.place name).observed ((desired.place name).shown kept)) = true

/-! ## Made resources -/

/-- Whether a creation may overwrite a resource, as suppression entries are. -/
def Desired.overwrites : Desired → Bool
  | .bounce _ | .complaint _ | .unsubscribe _ => true
  | _ => false

/-- A resource has been made as desired under a name, and nothing else has changed. -/
structure Desired.MadeIn (desired : Desired) (name : String) (h h' : Holdings) : Prop where
  named : name.isEmpty = false
  free : desired.overwrites = false → h.kept? (desired.place name) = none
  asDesired : ∃ kept, h'.kept? (desired.place name) = some kept ∧ desired.MetAt name kept
  undisturbed : Holdings.Undisturbed (desired.place name) h h'

namespace Desired

variable {desired : Desired} {name : String} {h h' : Holdings}

theorem MadeIn.keep {kept : (desired.place name).Kept} (hname : name.isEmpty = false)
    (hfree : desired.overwrites = false → h.kept? (desired.place name) = none) (hmet : desired.MetAt name kept) :
    desired.MadeIn name h (h.keep (desired.place name) (some kept)) where
  named := hname
  free := hfree
  asDesired := ⟨kept, h.kept?_keep_self _ _, hmet⟩
  undisturbed := h.undisturbed_keep _ _

theorem MadeIn.of_numbered (hmade : desired.MadeIn name h.numbered h') : desired.MadeIn name h h' where
  named := hmade.named
  free := fun ho => (h.kept?_numbered _).symm.trans (hmade.free ho)
  asDesired := hmade.asDesired
  undisturbed := fun q hne => (hmade.undisturbed q hne).trans (h.kept?_numbered q)

end Desired

/-! ## Creations -/

theorem isEmpty_word_event (event : WebhookEvent) : (Word.word event).isEmpty = false := by
  cases event <;> decide

namespace Account

open Holdings Lifecycle

variable {policy : Policy} {scope : Scope} {now t : Instant} {w w' : World Account} {name : String} {desired : Desired}

theorem carriedOut_of_createBy {α : Type} {passes : Except ApiFailure Unit} {call : Call α} {named : α → String}
    (hp : policy.IsPreset) (hf : w.state.remote.failures = []) (hm : w.state.breaker.mode = .closed)
    (h : (createBy (client policy) scope passes call named).run now w = some (.ok name, t, w')) :
    (∃ value, named value = name ∧ check call = .ok () ∧
      w.state.remote.holdings.perform call = .ok (value, w'.state.remote.holdings)) ∧
      w'.state.remote.failures = [] ∧ w'.state.breaker.mode = .closed := by
  obtain ⟨-, h⟩ := of_run_checked h
  obtain ⟨value, hrun, hvalue⟩ := of_run_map h
  obtain ⟨hc, hperform, hrest⟩ := carriedOut_of_run scope hp hf hm hrun
  exact ⟨⟨value, hvalue, hc, hperform⟩, hrest⟩

/-- A creation that succeeds has made the resource as desired. -/
theorem madeIn_of_create (hp : policy.IsPreset) (hf : w.state.remote.failures = [])
    (hm : w.state.breaker.mode = .closed) (ho : w.state.remote.holdings.Orderly)
    (h : (create (client policy) scope desired).run now w = some (.ok name, t, w')) :
    desired.MadeIn name w.state.remote.holdings w'.state.remote.holdings ∧ w'.state.remote.failures = [] ∧
      w'.state.breaker.mode = .closed := by
  cases desired with
  | domain d =>
    obtain ⟨⟨value, rfl, hc, hperform⟩, hrest⟩ := carriedOut_of_createBy hp hf hm h
    obtain ⟨hfree, rfl, hh⟩ := perform_createDomain hperform
    rw [hh]
    exact ⟨.keep (isEmpty_of_requireText hc) (fun _ => hfree) d.metBy_newDomain, hrest⟩
  | route r =>
    obtain ⟨⟨value, rfl, -, hperform⟩, hrest⟩ := carriedOut_of_createBy hp hf hm h
    obtain ⟨rfl, hh⟩ := perform_createRoute hperform
    rw [hh]
    have hfree := ho.kept?_next_route
    rw [← kept?_numbered] at hfree
    exact ⟨.of_numbered (.keep (isEmpty_routeId _) (fun _ => hfree) (r.metBy_routeOf _ _)), hrest⟩
  | mailingList l =>
    obtain ⟨⟨value, rfl, hc, hperform⟩, hrest⟩ := carriedOut_of_createBy hp hf hm h
    obtain ⟨hfree, rfl, hh⟩ := perform_createMailingList hperform
    rw [hh]
    exact ⟨.keep (isEmpty_of_requireText hc) (fun _ => hfree) (l.metBy_listOf 0), hrest⟩
  | webhook w =>
    obtain ⟨⟨value, rfl, -, hperform⟩, hrest⟩ := carriedOut_of_createBy hp hf hm h
    obtain ⟨hfree, rfl, hh⟩ := perform_createWebhook hperform
    rw [hh]
    exact ⟨.keep (isEmpty_word_event _) (fun _ => hfree) (sameTexts_self _), hrest⟩
  | credential c =>
    obtain ⟨⟨value, rfl, hc, hperform⟩, hrest⟩ := carriedOut_of_createBy hp hf hm h
    obtain ⟨hfree, hh⟩ := perform_createCredential hperform
    rw [hh.trans (keep_fullLogin _ _ _ _).symm]
    rw [← kept?_fullLogin] at hfree
    obtain ⟨-, hc⟩ := of_bind_requireText hc
    obtain ⟨hlogin, -⟩ := of_bind_requireText hc
    exact ⟨.keep (isEmpty_qualifyLogin hlogin _) (fun _ => hfree) rfl, hrest⟩
  | template t =>
    obtain ⟨⟨value, rfl, hc, hperform⟩, hrest⟩ := carriedOut_of_createBy hp hf hm h
    obtain ⟨hfree, rfl, hh⟩ := perform_createTemplate hperform
    rw [hh]
    rw [← kept?_numbered] at hfree
    obtain ⟨-, hc⟩ := of_bind_requireText hc
    obtain ⟨hname, -⟩ := of_bind_requireText hc
    exact ⟨.of_numbered (.keep hname (fun _ => hfree) (all_beq_getD t.description "")), hrest⟩
  | bounce b =>
    obtain ⟨⟨value, rfl, hc, hperform⟩, hrest⟩ := carriedOut_of_createBy hp hf hm h
    rw [perform_createBounce hperform]
    obtain ⟨-, hc⟩ := of_bind_requireText hc
    exact ⟨.keep (isEmpty_of_requireText hc) nofun b.metBy_bounceOf, hrest⟩
  | complaint c =>
    obtain ⟨⟨value, rfl, hc, hperform⟩, hrest⟩ := carriedOut_of_createBy hp hf hm h
    rw [perform_createComplaint hperform]
    obtain ⟨-, hc⟩ := of_bind_requireText hc
    exact ⟨.keep (isEmpty_of_requireText hc) nofun rfl, hrest⟩
  | unsubscribe u =>
    obtain ⟨⟨value, rfl, hc, hperform⟩, hrest⟩ := carriedOut_of_createBy hp hf hm h
    rw [perform_createUnsubscribe hperform]
    obtain ⟨-, hc⟩ := of_bind_requireText hc
    exact ⟨.keep (isEmpty_of_requireText hc) nofun (sameTexts_self _), hrest⟩

end Account

/-! ## The life of a made resource -/

namespace Holdings

variable {h : Holdings} {name : String} {desired : Desired}

theorem observation_of_kept {kept : (desired.place name).Kept} (hkept : h.kept? (desired.place name) = some kept) :
    h.observation name desired =
      .present (desired.metBy ((desired.place name).observed ((desired.place name).shown kept)))
        ((desired.place name).observed ((desired.place name).shown kept)) := by
  unfold observation
  rw [at?_eq, hkept]
  rfl

theorem observation_of_not_kept (hkept : h.kept? (desired.place name) = none) :
    h.observation name desired = .absent := by
  unfold observation
  rw [at?_eq, hkept]
  rfl

end Holdings

namespace Breaker

theorem visits_singleton (h : Holdings) (now : Instant) (p : Place) (b : Breaker) :
    visits h now [p] b = b.visit (h.at? p).isSome now := by
  unfold visits
  exact Option.bind_fun_some _

end Breaker

namespace Trip

variable {name : String} {desired : Desired}

/-- A resource is observed, deleted and observed again, each at an instant and a time of the breaker's clock. -/
def throughDeletion (name : String) (desired : Desired) (m₁ m₂ m₃ : Instant × BreakerClock) : List Trip :=
  [⟨m₁.1, m₁.2, .observe name desired⟩, ⟨m₂.1, m₂.2, .delete name desired⟩, ⟨m₃.1, m₃.2, .observe name desired⟩]

variable {m₁ m₂ m₃ : Instant × BreakerClock}

theorem wellFormed_throughDeletion (hname : name.isEmpty = false) :
    ∀ trip ∈ throughDeletion name desired m₁ m₂ m₃, trip.errand.WellFormed := by
  intro trip htrip
  simp only [throughDeletion, List.mem_cons, List.not_mem_nil, or_false] at htrip
  rcases htrip with rfl | rfl | rfl
  · exact hname
  · trivial
  · exact hname

/-- A closed breaker admits these errands if the resource is there: it is told of two successes first. -/
theorem visitsAll_throughDeletion {h : Holdings} {kept : (desired.place name).Kept}
    (hkept : h.kept? (desired.place name) = some kept) {b : Breaker} (hm : b.mode = .closed) :
    ∃ b', visitsAll (throughDeletion name desired m₁ m₂ m₃) h b = some b' := by
  have hat : (h.at? (desired.place name)).isSome = true := by
    rw [h.at?_eq, hkept]
    rfl
  obtain ⟨b₁, hvisit₁, hm₁⟩ := Breaker.visit_of_closed hm true (m₁.2.read m₁.1)
  obtain ⟨b₂, hvisit₂, hm₂⟩ := Breaker.visit_of_closed (hm₁ rfl) true (m₂.2.read m₂.1)
  obtain ⟨b₃, hvisit₃, -⟩ := Breaker.visit_of_closed (hm₂ rfl) false (m₃.2.read m₃.1)
  refine ⟨b₃, ?_⟩
  simp only [throughDeletion, visitsAll, Errand.places, Errand.leaves, Breaker.visits_singleton, hat, hvisit₁,
    hvisit₂, Option.bind_some, Holdings.at?_without_self, Option.isSome_none, hvisit₃]

theorem dueAll_throughDeletion {h : Holdings} {kept : (desired.place name).Kept}
    (hkept : h.kept? (desired.place name) = some kept) (hmet : desired.MetAt name kept) :
    dueAll (throughDeletion name desired m₁ m₂ m₃) h =
      [.observed (.ok (.present true ((desired.place name).observed ((desired.place name).shown kept)))),
        .deleted (.ok ()), .observed (.ok .absent)] := by
  have hcleared : (h.without (desired.place name)).kept? (desired.place name) = none := by
    rw [Holdings.without_eq_keep, Holdings.kept?_keep_self]
  rw [Desired.MetAt] at hmet
  simp only [throughDeletion, dueAll, Errand.due, Errand.leaves, Holdings.observation_of_kept hkept,
    Holdings.observation_of_not_kept hcleared, hmet]

end Trip

section Life

variable {policy : Policy} {scope : Scope} {now t : Instant} {w w₁ : World Account} {name : String} {desired : Desired}

/-- Let a resource of any kind be created in an account that calls have made, before which no failures are put, under a
preset policy and behind a closed breaker. If that succeeds, there was no resource at the place that the answer names,
unless the kind is overwritten. From then on the resource is observed as desired, deleted successfully, and then
observed as absent, at any instants. Neither the creation nor the deletion changes what is kept at any other place. -/
theorem created_resource_observed_and_deleted (hp : policy.IsPreset) (hr : w.state.remote.Reachable)
    (hf : w.state.remote.failures = []) (hm : w.state.breaker.mode = .closed)
    (h : (Lifecycle.create (Account.client policy) scope desired).run now w = some (.ok name, t, w₁)) (config : Config)
    (scope' : Scope) (m₁ m₂ m₃ : Instant × BreakerClock) :
    (desired.overwrites = false → w.state.remote.holdings.kept? (desired.place name) = none) ∧
    Holdings.Undisturbed (desired.place name) w.state.remote.holdings w₁.state.remote.holdings ∧
    ∃ state w₂, Trip.runAll ⟨config, Account.client policy⟩ scope' (Trip.throughDeletion name desired m₁ m₂ m₃) w₁ =
      some ([.observed (.ok (.present true state)), .deleted (.ok ()), .observed (.ok .absent)], w₂) ∧
      Holdings.Undisturbed (desired.place name) w₁.state.remote.holdings w₂.state.remote.holdings := by
  obtain ⟨hmade, hf₁, hm₁⟩ := Account.madeIn_of_create hp hf hm hr.orderly h
  refine ⟨hmade.free, hmade.undisturbed, ?_⟩
  obtain ⟨kept, hkept, hmet⟩ := hmade.asDesired
  obtain ⟨b, hvisits⟩ := @Trip.visitsAll_throughDeletion _ _ m₁ m₂ m₃ _ _ hkept _ hm₁
  obtain ⟨w₂, hrun, hleft, -⟩ :=
    Trip.runAll_of_visitsAll config scope' hp (Trip.wellFormed_throughDeletion hmade.named) hf₁ hvisits
  rw [Trip.dueAll_throughDeletion hkept hmet] at hrun
  refine ⟨_, w₂, hrun, ?_⟩
  rw [hleft]
  exact w₁.state.remote.holdings.undisturbed_without _

/-- A credential that is created by the local part of its login goes by the whole login. -/
theorem created_credential_observed_and_deleted : Policy.api.IsPreset ∧ Account.Reachable {} ∧
    ∃ w₁, (Lifecycle.create (Account.client .api) .endless (.credential ⟨"a.io", "alice", "secret"⟩)).run 0
        (emptyWorld ⟨"mailgun", {}, .closed, .closed, 0, 0, none⟩) = some (.ok "alice@a.io", 0, w₁) ∧
      ∃ state w₂, Trip.runAll ⟨{}, Account.client .api⟩ .endless (Trip.throughDeletion "alice@a.io"
          (.credential ⟨"a.io", "alice", "secret"⟩) (1, .ofRun) (2, .ofRun) (3, .ofRun)) w₁ =
        some ([.observed (.ok (.present true state)), .deleted (.ok ()), .observed (.ok .absent)], w₂) := by
  have hp : Policy.api.IsPreset := .inr rfl
  have hclosed : (⟨"mailgun", {}, .closed, .closed, 0, 0, none⟩ : Breaker).mode = .closed := rfl
  obtain ⟨b, hvisit, -⟩ := Breaker.visit_of_closed hclosed true 0
  have hc : Account.check (.createCredential ⟨"a.io", "alice", "secret"⟩) = .ok () := by rfl
  obtain ⟨w₁, hrun, -⟩ := @Account.run_of_carriedOut _ .endless 0
    (emptyWorld ⟨"mailgun", {}, .closed, .closed, 0, 0, none⟩) b _ (.createCredential ⟨"a.io", "alice", "secret"⟩)
    hp rfl hc () _ rfl hvisit
  have hcreate : (Lifecycle.create (Account.client .api) .endless (.credential ⟨"a.io", "alice", "secret"⟩)).run 0
      (emptyWorld ⟨"mailgun", {}, .closed, .closed, 0, 0, none⟩) = some (.ok "alice@a.io", 0, w₁) :=
    Work.run_bind_of_some _ hrun
  obtain ⟨-, -, state, w₂, hlife, -⟩ := created_resource_observed_and_deleted hp .fresh rfl hclosed hcreate {} .endless
    (1, .ofRun) (2, .ofRun) (3, .ofRun)
  exact ⟨hp, .fresh, w₁, hcreate, state, w₂, hlife⟩

end Life
end MailReconciler
