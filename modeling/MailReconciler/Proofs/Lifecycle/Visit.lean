/-
Single errands to an account before which no failures are put. Under a preset policy the answer that a resource is
missing is not worth another try, so each of them takes one attempt and no time: if the breaker admits it, observing a
resource tells whether it is there and what it is like, and deleting it clears its place. The breaker is told whether
the resource was there.
-/
import MailReconciler.Proofs.Client.Effect
import MailReconciler.Proofs.Client.Rejection
import MailReconciler.Proofs.Lifecycle.Calls
import MailReconciler.Provider.Sighting

namespace MailReconciler

/-! ## Missing resources -/

namespace Policy

/-- Whether a policy is one of the presets. -/
def IsPreset (p : Policy) : Prop := p = .conservative ∨ p = .api

variable {p : Policy}

theorem IsPreset.spare_eq (h : p.IsPreset) : ∃ spare, Retry.spare p = spare + 1 := by
  rcases h with rfl | rfl
  · exact ⟨1, rfl⟩
  · exact ⟨3, rfl⟩

theorem IsPreset.marks_subset (h : p.IsPreset) : p.marks ⊆ api.marks := by
  rcases h with rfl | rfl
  · exact marks_conservative
  · exact List.Subset.refl _

/-- The methods of the calls that say that a resource is missing. -/
def methods : List String := ["GET", "DELETE"]

/-- What resources are called in answers about missing ones. -/
def whats : List String :=
  ["domain", "route", "mailing list", "webhook", "credential", "template", "address"]

theorem mem_whats (place : Place) : place.what ∈ whats := by
  cases place <;> simp [Place.what, whats]

/-- What stands before the colon in an answer about a missing resource. -/
def opening (method : String) : List Char := method.toList ++ " request failed with status 404".toList

/-- What stands behind it. -/
def remark (what : String) : List Char := ' ' :: (what.toList ++ " not found".toList)

theorem toList_missing (method path what : String) :
    (Holdings.missing method path what).message.toList = opening method ++ ':' :: remark what := by
  have hcolon : ": ".toList = [':', ' '] := by decide
  have hstatus : " request failed with status ".toList ++ (toString 404).toList =
      " request failed with status 404".toList := by decide
  unfold Holdings.missing ApiFailure.message opening remark
  simp only [String.toList_append, List.append_assoc, hcolon]
  rw [← hstatus, List.append_assoc]
  rfl

theorem sigma_not_mem_missing : (∀ method ∈ methods, 'Σ' ∉ opening method) ∧ ∀ what ∈ whats, 'Σ' ∉ remark what := by
  decide +kernel

theorem lowerChars_missing {method what : String} (hm : method ∈ methods) (hw : what ∈ whats) :
    Text.lowerChars (opening method ++ ':' :: remark what) =
      (opening method).flatMap Text.lowerAlone ++ ':' :: (remark what).flatMap Text.lowerAlone := by
  obtain ⟨hopening, hremark⟩ := sigma_not_mem_missing
  have hsigma : 'Σ' ∉ opening method ++ ':' :: remark what := by
    simp [hopening method hm, hremark what hw]
  rw [Text.lowerChars, Text.lowerFrom_of_not_mem hsigma, List.flatMap_append, List.flatMap_cons]
  rfl

/-- No mark reaches across the colon, and none stands on either side of it. -/
theorem marks_missing : ∀ m ∈ api.marks, ':' ∉ m.toList ∧
    (∀ method ∈ methods, Text.holdsPhrase m.toList ((opening method).flatMap Text.lowerAlone) = false) ∧
    ∀ what ∈ whats, Text.holdsPhrase m.toList ((remark what).flatMap Text.lowerAlone) = false := by
  decide +kernel

theorem IsPreset.retries_missing (h : p.IsPreset) {method : String} (hm : method ∈ methods) (path : String)
    (place : Place) :
    p.retries (.operation (Holdings.missing method path place.what) : BreakerFailure ApiFailure) = false := by
  refine (p.retriesText_eq _ rfl).trans ?_
  -- the text is cut at its colon, which no mark holds
  rw [marksText, List.any_eq_false]
  intro m hmark
  obtain ⟨hcolon, hopening, hremark⟩ := marks_missing m (h.marks_subset hmark)
  have hw := mem_whats place
  rw [Text.mentions, Text.toList_lowercase]
  change ¬Text.holdsPhrase m.toList (Text.lowerChars (Holdings.missing method path place.what).message.toList) = true
  rw [toList_missing, lowerChars_missing hm hw, Text.holdsPhrase_append_cons hcolon, hopening method hm,
    hremark place.what hw]
  exact Bool.false_ne_true

end Policy

/-! ## Calls -/

namespace Account

/-- A client of an account. -/
abbrev client (policy : Policy) : Client Account := ⟨service, policy⟩

/-- A call has left the breaker and the resources as given, and put no failures before the next one. -/
structure Leaves (w : World Account) (b : Breaker) (h : Holdings) (w' : World Account) : Prop where
  breaker : w'.state.breaker = b
  clock : w'.state.clock = w.state.clock
  holdings : w'.state.remote.holdings = h
  failures : w'.state.remote.failures = []

variable {policy : Policy} (scope : Scope) {now : Instant} {w : World Account} {b : Breaker} {p : Place}

/-- A call that the account carries out ends at once with its answer. -/
theorem run_of_carriedOut {α : Type} {call : Call α} (hp : policy.IsPreset) (hf : w.state.remote.failures = [])
    (hc : check call = .ok ()) {value : α} {h : Holdings}
    (hperform : w.state.remote.holdings.perform call = .ok (value, h))
    (hvisit : w.state.breaker.visit true (w.read now) = some b) :
    ∃ w', ((client policy).call scope call).run now w = some (.ok value, now, w') ∧ Leaves w b h w' := by
  obtain ⟨spare, hspare⟩ := hp.spare_eq
  have hanswer := answer_of_carriedOut hc hf hperform
  obtain ⟨w', hrun, hstate⟩ := run_call_of_admitted scope hspare (congrArg Prod.fst hanswer) nofun hvisit
  rw [hanswer] at hstate
  refine ⟨w', hrun, ?_, ?_, ?_, ?_⟩
  · rw [hstate]
  · rw [hstate]
  · rw [hstate]
  · rw [hstate]
    exact hf

/-- A call that succeeds has been carried out by the account; a closed breaker stays closed. -/
theorem carriedOut_of_run {α : Type} {call : Call α} (hp : policy.IsPreset) (hf : w.state.remote.failures = [])
    (hm : w.state.breaker.mode = .closed) {value : α} {t : Instant} {w' : World Account}
    (h : ((client policy).call scope call).run now w = some (.ok value, t, w')) :
    check call = .ok () ∧ w.state.remote.holdings.perform call = .ok (value, w'.state.remote.holdings) ∧
      w'.state.remote.failures = [] ∧ w'.state.breaker.mode = .closed := by
  obtain ⟨run, t', w'', hmakes⟩ := makes_asking policy scope call now w
  have hresult : run.result = .ok value := by
    have hends := (run_call hmakes).symm.trans h
    cases hrun : run.result with
    | ok value' => rw [hrun] at hends; cases hends; rfl
    | error f => rw [hrun] at hends; cases hends
  -- what is carried out in any attempt is carried out by a direct call, and so in the first attempt
  have hdirect : (w.state.remote.answerDirectly call).1 = .ok value := by
    have heffect := effect_of_makes hmakes rfl
    rw [hresult] at heffect
    exact heffect.1
  have ha := Account.answers { w.state.remote with failures := [] } call
  change (Account.answer { w.state.remote with failures := [] } call).1 = _ at hdirect
  rw [hdirect] at ha
  generalize (Account.answer { w.state.remote with failures := [] } call).2 = after at ha
  cases ha with
  | @carriedOut _ holdings hc _ hperform =>
    obtain ⟨b', hvisit, hclosed⟩ := Breaker.visit_of_closed hm true (w.read now)
    obtain ⟨w₁, hrun, hleaves⟩ := run_of_carriedOut scope hp hf hc hperform hvisit
    obtain ⟨rfl, rfl⟩ : now = t ∧ w₁ = w' := by
      have hsame := hrun.symm.trans h
      cases hsame
      exact ⟨rfl, rfl⟩
    rw [hleaves.holdings, hleaves.breaker]
    exact ⟨hc, hperform, hleaves.failures, hclosed rfl⟩

/-- A call about a missing resource ends at once, and says so. -/
theorem run_of_missing {α : Type} {call : Call α} (hp : policy.IsPreset) (hf : w.state.remote.failures = [])
    (hc : check call = .ok ()) {method path : String} (hm : method ∈ Policy.methods)
    (hperform : w.state.remote.holdings.perform call = .error (Holdings.missing method path p.what))
    (hvisit : w.state.breaker.visit false (w.read now) = some b) :
    ∃ f w', ((client policy).call scope call).run now w = some (.error f, now, w') ∧ f.isNotFound = true ∧
      Leaves w b w.state.remote.holdings w' := by
  obtain ⟨spare, hspare⟩ := hp.spare_eq
  have hanswer := answer_of_failed hc hf hperform
  have hkept := hp.retries_missing hm path p
  obtain ⟨w', hrun, hstate⟩ := run_call_of_admitted scope hspare (congrArg Prod.fst hanswer)
    (fun e he => by cases he; exact hkept) hvisit
  rw [hanswer] at hstate
  refine ⟨_, w', hrun, rfl, ?_, ?_, ?_, ?_⟩
  · rw [hstate]
  · rw [hstate]
  · rw [hstate]
    rfl
  · rw [hstate]
    exact hf

/-- A call that the breaker rejects ends at once and changes nothing, if its rejections are not worth another try. -/
theorem run_of_rejected {α : Type} (call : Call α) (hm : w.state.breaker.mode = .opened)
    (hc : w.state.breaker.cooled (w.read now) = false)
    (hkept : policy.retries (.rejected w.state.breaker.name : BreakerFailure ApiFailure) = false) :
    ∃ w', ((client policy).call scope call).run now w =
        some (.error (.rejected call.name w.state.breaker.name), now, w') ∧ w'.state = w.state := by
  have hop := run_throughBreaker_of_rejected scope (service.perform call) hm hc
  obtain ⟨w', hrun, hstate, -⟩ :
      ∃ w', (callFrom policy scope call.name (fun _ => service.perform call) (Retry.spare policy) 1).run now w =
        some (⟨1, .error (.rejected call.name w.state.breaker.name)⟩, now, w') ∧ w'.state = w.rejected.state ∧ _ :=
    run_callFrom_of_not_retried hop rfl (.inl hkept)
  exact ⟨w', Work.run_bind_of_some _ hrun, hstate⟩

theorem run_get (hp : policy.IsPreset) (hf : w.state.remote.failures = [])
    (hvisit : w.state.breaker.visit (w.state.remote.holdings.at? p).isSome (w.read now) = some b) :
    ∃ answer w', ((client policy).call scope p.get).run now w = some (answer, now, w') ∧
      Lifecycle.found answer = .ok (w.state.remote.holdings.at? p) ∧ Leaves w b w.state.remote.holdings w' := by
  cases hat : w.state.remote.holdings.at? p with
  | some state =>
    rw [hat] at hvisit
    obtain ⟨w', hrun, hleaves⟩ := run_of_carriedOut scope hp hf p.check_get (Holdings.perform_get_of_some hat) hvisit
    exact ⟨_, w', hrun, rfl, hleaves⟩
  | none =>
    rw [hat] at hvisit
    obtain ⟨path, hmissing⟩ := Holdings.perform_get_of_none hat
    have hmethod : "GET" ∈ Policy.methods := List.mem_cons_self
    obtain ⟨f, w', hrun, hfound, hleaves⟩ := run_of_missing scope hp hf p.check_get hmethod hmissing hvisit
    exact ⟨_, w', hrun, if_pos hfound, hleaves⟩

theorem run_clear (hp : policy.IsPreset) (hf : w.state.remote.failures = [])
    (hvisit : w.state.breaker.visit (w.state.remote.holdings.at? p).isSome (w.read now) = some b) :
    ∃ answer w', ((client policy).call scope p.delete).run now w = some (answer, now, w') ∧
      Lifecycle.gone answer = .ok () ∧ Leaves w b (w.state.remote.holdings.without p) w' := by
  cases hat : w.state.remote.holdings.at? p with
  | some state =>
    rw [hat] at hvisit
    have hcleared := Holdings.perform_delete_of_some hat
    obtain ⟨w', hrun, hleaves⟩ := run_of_carriedOut scope hp hf p.check_delete hcleared hvisit
    exact ⟨_, w', hrun, rfl, hleaves⟩
  | none =>
    rw [hat] at hvisit
    obtain ⟨path, hmissing⟩ := Holdings.perform_delete_of_none hat
    have hmethod : "DELETE" ∈ Policy.methods := List.mem_cons_of_mem _ List.mem_cons_self
    obtain ⟨f, w', hrun, hfound, hleaves⟩ := run_of_missing scope hp hf p.check_delete hmethod hmissing hvisit
    rw [Holdings.without_of_none hat]
    exact ⟨_, w', hrun, if_pos hfound, hleaves⟩

end Account

/-! ## Errands -/

namespace Holdings

/-- What there is to observe of a desired resource. -/
def observation (h : Holdings) (name : String) (desired : Desired) : Observation :=
  match h.at? (desired.place name) with
  | none => .absent
  | some state => .present (desired.metBy ((desired.place name).observed state)) ((desired.place name).observed state)

/-- What stands at a place as JSON. -/
def json? (h : Holdings) (p : Place) : Option Json := (h.at? p).map fun state => (p.observed state).toJson

end Holdings

namespace Account

variable {policy : Policy} (scope : Scope) {now : Instant} {w : World Account} {b : Breaker} {name : String}
  {desired : Desired}

theorem run_observe (hp : policy.IsPreset) (hf : w.state.remote.failures = []) (hname : name.isEmpty = false)
    (hvisit : w.state.breaker.visit (w.state.remote.holdings.at? (desired.place name)).isSome (w.read now) = some b) :
    ∃ w', (Lifecycle.observe (client policy) scope name desired).run now w =
        some (.ok (w.state.remote.holdings.observation name desired), now, w') ∧
      Leaves w b w.state.remote.holdings w' := by
  obtain ⟨answer, w', hrun, hfound, hleaves⟩ := run_get scope hp hf hvisit
  refine ⟨w', ?_, hleaves⟩
  rw [Lifecycle.observe_eq (client policy) scope hname, Lifecycle.run_lookUp hrun, hfound]
  unfold Holdings.observation
  cases w.state.remote.holdings.at? (desired.place name) <;> rfl

theorem run_delete (hp : policy.IsPreset) (hf : w.state.remote.failures = [])
    (hvisit : w.state.breaker.visit (w.state.remote.holdings.at? (desired.place name)).isSome (w.read now) = some b) :
    ∃ w', (Lifecycle.delete (client policy) scope name desired).run now w = some (.ok (), now, w') ∧
      Leaves w b (w.state.remote.holdings.without (desired.place name)) w' := by
  obtain ⟨answer, w', hrun, hgone, hleaves⟩ := run_clear scope hp hf hvisit
  refine ⟨w', ?_, hleaves⟩
  rw [Lifecycle.run_delete hrun, hgone]

theorem run_sight (config : Config) {kind : ResourceKind} {domain : Option String} {id : String} {p : Place}
    (hp : policy.IsPreset) (hf : w.state.remote.failures = []) (hplace : Place.ofId? kind domain id = some p)
    (hvisit : w.state.breaker.visit (w.state.remote.holdings.at? p).isSome (w.read now) = some b) :
    ∃ w', ((⟨config, client policy⟩ : Provider Account).sight scope kind domain id).run now w =
        some (⟨kind, id, .ok (w.state.remote.holdings.json? p)⟩, now, w') ∧
      Leaves w b w.state.remote.holdings w' := by
  obtain ⟨answer, w', hrun, hfound, hleaves⟩ := run_get scope hp hf hvisit
  refine ⟨w', ?_, hleaves⟩
  have hlook := Lifecycle.run_lookUpJson hrun
  rw [hfound] at hlook
  rw [← Lifecycle.observeById_of_some (client policy) scope hplace] at hlook
  refine (Work.run_bind_of_some _ hlook).trans ?_
  unfold Holdings.json?
  cases w.state.remote.holdings.at? p with
  | none => rfl
  | some state =>
    simp only [Except.map, Option.map_some, Place.answerJson_get]
    rfl

end Account
end MailReconciler
