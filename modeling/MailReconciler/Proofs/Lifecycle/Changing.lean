/-
Resources that are changed to a desired state. A resource is looked for by its external name, but most kinds are changed
where the desired state names them: an update that succeeds makes the resource as desired under that name. Under the
external name it is then found as desired if both name the same place. Else a mailing list has moved away from it, and
what is there of any other kind has not been changed.
-/
import MailReconciler.Proofs.Lifecycle.Making

namespace MailReconciler

/-! ## Changed resources -/

namespace Desired

/-- The name of the resource that an update under an external name changes: its own name, for the kinds that state it.
-/
def target (name : String) : Desired → String
  | .domain _ | .route _ | .webhook _ => name
  | .mailingList l => l.address
  | .credential c => c.login
  | .template t => t.name
  | .bounce b => b.address
  | .complaint c => c.address
  | .unsubscribe u => u.address

/-- Whether an update takes the resource away from its old name. -/
def moves : Desired → Bool
  | .mailingList _ => true
  | _ => false

/-- A resource has been changed to a desired state by an update under an external name. -/
structure ChangedIn (desired : Desired) (name : String) (h h' : Holdings) : Prop where
  named : (desired.target name).isEmpty = false
  asDesired : ∃ kept, h'.kept? (desired.place (desired.target name)) = some kept ∧
    desired.MetAt (desired.target name) kept
  moved : desired.moves = true → (desired.place name).full ≠ (desired.place (desired.target name)).full →
    h'.kept? (desired.place name) = none
  undisturbed : desired.moves = false → Holdings.Undisturbed (desired.place (desired.target name)) h h'

variable {desired : Desired} {name : String} {h : Holdings}

theorem ChangedIn.keep {kept : (desired.place (desired.target name)).Kept} (hm : desired.moves = false)
    (hname : (desired.target name).isEmpty = false) (hmet : desired.MetAt (desired.target name) kept) :
    desired.ChangedIn name h (h.keep (desired.place (desired.target name)) (some kept)) where
  named := hname
  asDesired := ⟨kept, h.kept?_keep_self _ _, hmet⟩
  moved := fun hmoves => by rw [hm] at hmoves; cases hmoves
  undisturbed := fun _ => h.undisturbed_keep _ _

theorem changedIn_of_moved {l : MailingListSpec} {members : UInt64} (hname : l.address.isEmpty = false) :
    (Desired.mailingList l).ChangedIn name h
      ((h.without (.mailingList name)).keep (.mailingList l.address) (some (Holdings.listOf l members))) where
  named := hname
  asDesired := ⟨_, Holdings.kept?_keep_self _ (.mailingList l.address) _, l.metBy_listOf members⟩
  moved := by
    intro _ hne
    have hcleared : (h.without (.mailingList name)).kept? (.mailingList name) = none := by
      rw [Holdings.without_eq_keep, Holdings.kept?_keep_self]
    exact (Holdings.kept?_keep_of_ne _ _ hne).trans hcleared
  undisturbed := nofun

end Desired

/-! ## Updates -/

namespace Account

open Holdings Lifecycle

variable {policy : Policy} {scope : Scope} {now t : Instant} {w w' : World Account} {name : String} {desired : Desired}

theorem carriedOut_of_callOnly {α : Type} {call : Call α} (hp : policy.IsPreset)
    (hf : w.state.remote.failures = []) (hm : w.state.breaker.mode = .closed)
    (h : (callOnly (client policy) scope call).run now w = some (.ok (), t, w')) :
    (∃ value, w.state.remote.holdings.perform call = .ok (value, w'.state.remote.holdings)) ∧
      w'.state.remote.failures = [] ∧ w'.state.breaker.mode = .closed := by
  obtain ⟨value, hrun, -⟩ := of_run_map h
  obtain ⟨-, hperform, hrest⟩ := carriedOut_of_run scope hp hf hm hrun
  exact ⟨⟨value, hperform⟩, hrest⟩

/-- A call that the account carries out and whose answer is of no use ends at once. -/
theorem run_callOnly_of_carriedOut {α : Type} {call : Call α} {b : Breaker} (hp : policy.IsPreset)
    (hf : w.state.remote.failures = []) (hc : check call = .ok ()) {value : α} {after : Holdings}
    (hperform : w.state.remote.holdings.perform call = .ok (value, after))
    (hvisit : w.state.breaker.visit true (w.read now) = some b) :
    ∃ w', (callOnly (client policy) scope call).run now w = some (.ok (), now, w') ∧ Leaves w b after w' := by
  obtain ⟨w', hrun, hleaves⟩ := run_of_carriedOut scope hp hf hc hperform hvisit
  exact ⟨w', Work.run_bind_of_some _ hrun, hleaves⟩

/-- To update a suppression entry is to create it. -/
theorem create_of_update (hover : desired.overwrites = true)
    (h : (update (client policy) scope name desired).run now w = some (.ok (), t, w')) :
    ∃ made, (create (client policy) scope desired).run now w = some (.ok made, t, w') := by
  have hupdate : update (client policy) scope name desired =
      (create (client policy) scope desired).bind fun answer => .done (answer.map fun _ => ()) := by
    cases desired with
    | bounce _ | complaint _ | unsubscribe _ => rfl
    | domain _ | route _ | mailingList _ | webhook _ | credential _ | template _ => cases hover
  rw [hupdate] at h
  obtain ⟨made, hrun, -⟩ := of_run_map h
  exact ⟨made, hrun⟩

/-- An update that succeeds has changed the resource as desired. -/
theorem changedIn_of_update (hp : policy.IsPreset) (hf : w.state.remote.failures = [])
    (hm : w.state.breaker.mode = .closed) (ho : w.state.remote.holdings.Orderly) (hname : name.isEmpty = false)
    (h : (update (client policy) scope name desired).run now w = some (.ok (), t, w')) :
    desired.ChangedIn name w.state.remote.holdings w'.state.remote.holdings ∧ w'.state.remote.failures = [] ∧
      w'.state.breaker.mode = .closed := by
  cases desired with
  | domain d =>
    obtain ⟨⟨value, hperform⟩, hrest⟩ := carriedOut_of_callOnly hp hf hm h
    obtain ⟨old, -, hh⟩ := perform_updateDomain hperform
    rw [hh]
    exact ⟨.keep rfl hname (d.metBy_changedDomain old), hrest⟩
  | route r =>
    obtain ⟨-, h⟩ := of_run_checked h
    obtain ⟨⟨value, hperform⟩, hrest⟩ := carriedOut_of_callOnly hp hf hm h
    obtain ⟨old, -, hh⟩ := perform_updateRoute hperform
    rw [hh]
    exact ⟨.keep rfl hname (r.metBy_routeOf _ _), hrest⟩
  | mailingList l =>
    obtain ⟨hc, h⟩ := of_run_checked h
    obtain ⟨⟨value, hperform⟩, hrest⟩ := carriedOut_of_callOnly hp hf hm h
    obtain ⟨old, -, hh⟩ := perform_updateMailingList hperform
    rw [hh]
    exact ⟨Desired.changedIn_of_moved (isEmpty_of_requireText hc), hrest⟩
  | webhook w =>
    obtain ⟨-, h⟩ := of_run_checked h
    obtain ⟨⟨value, hperform⟩, hrest⟩ := carriedOut_of_callOnly hp hf hm h
    obtain ⟨old, -, hh⟩ := perform_updateWebhook hperform
    rw [hh]
    exact ⟨.keep rfl hname (sameTexts_self _), hrest⟩
  | credential c =>
    obtain ⟨hc, h⟩ := of_run_checked h
    obtain ⟨⟨value, hperform⟩, hrest⟩ := carriedOut_of_callOnly hp hf hm h
    obtain ⟨old, -, hh⟩ := perform_updatePassword hperform
    rw [hh]
    obtain ⟨-, hc⟩ := of_bind_requireText hc
    obtain ⟨hlogin, -⟩ := of_bind_requireText hc
    exact ⟨.keep rfl hlogin rfl, hrest⟩
  | template t =>
    obtain ⟨⟨value, hperform⟩, hrest⟩ := carriedOut_of_callOnly hp hf hm h
    obtain ⟨old, hold, hh⟩ := perform_updateTemplate hperform
    rw [hh]
    -- the desired state is not checked here, but no template without a name is kept
    exact ⟨.keep rfl (ho _ _ hold) (t.metBy_description old), hrest⟩
  | bounce b =>
    obtain ⟨made, h⟩ := create_of_update rfl h
    obtain ⟨⟨value, -, hc, hperform⟩, hrest⟩ := carriedOut_of_createBy hp hf hm h
    rw [perform_createBounce hperform]
    obtain ⟨-, hc⟩ := of_bind_requireText hc
    exact ⟨.keep rfl (isEmpty_of_requireText hc) b.metBy_bounceOf, hrest⟩
  | complaint c =>
    obtain ⟨made, h⟩ := create_of_update rfl h
    obtain ⟨⟨value, -, hc, hperform⟩, hrest⟩ := carriedOut_of_createBy hp hf hm h
    rw [perform_createComplaint hperform]
    obtain ⟨-, hc⟩ := of_bind_requireText hc
    exact ⟨.keep rfl (isEmpty_of_requireText hc) rfl, hrest⟩
  | unsubscribe u =>
    obtain ⟨made, h⟩ := create_of_update rfl h
    obtain ⟨⟨value, -, hc, hperform⟩, hrest⟩ := carriedOut_of_createBy hp hf hm h
    rw [perform_createUnsubscribe hperform]
    obtain ⟨-, hc⟩ := of_bind_requireText hc
    exact ⟨.keep rfl (isEmpty_of_requireText hc) (sameTexts_self _), hrest⟩

end Account

/-! ## Observations after an update -/

namespace Holdings

variable {h h' : Holdings} {name other : String} {desired : Desired}

/-- What there is to observe at a place of a desired resource. -/
def observedAt (h : Holdings) (desired : Desired) (p : Place) : Observation :=
  (h.at? p).elim .absent fun state => .present (desired.metBy (p.observed state)) (p.observed state)

theorem observation_eq_observedAt (h : Holdings) (name : String) (desired : Desired) :
    h.observation name desired = h.observedAt desired (desired.place name) := by
  unfold observation observedAt
  cases h.at? (desired.place name) <;> rfl

theorem observedAt_full (h : Holdings) (desired : Desired) (p : Place) :
    h.observedAt desired p.full = h.observedAt desired p := by
  cases p with
  | credential d login =>
    exact congrArg (fun kept : Option (CredentialState × String) => (kept.map Prod.fst).elim Observation.absent
      fun state => .present (desired.metBy (.credential state)) (.credential state)) (h.kept?_fullLogin d login)
  | domain _ | route _ | mailingList _ | webhook _ _ | template _ _ | bounce _ _ | complaint _ _ | unsubscribe _ _ =>
    rfl

/-- Names of the same place make no difference to what is observed. -/
theorem observation_congr (h : Holdings) (hsame : (desired.place name).full = (desired.place other).full) :
    h.observation name desired = h.observation other desired := by
  rw [observation_eq_observedAt, ← observedAt_full, hsame, observedAt_full, ← observation_eq_observedAt]

theorem observation_of_kept?_eq (hk : h'.kept? (desired.place name) = h.kept? (desired.place name)) :
    h'.observation name desired = h.observation name desired := by
  unfold observation
  rw [at?_eq, hk, at?_eq]

theorem isSome_of_observation {upToDate : Bool} {state : Observed}
    (hpresent : h.observation name desired = .present upToDate state) : (h.at? (desired.place name)).isSome = true := by
  unfold observation at hpresent
  cases hat : h.at? (desired.place name) with
  | none => rw [hat] at hpresent; cases hpresent
  | some _ => rfl

end Holdings

/-- The same world at another time of the breaker's clock. -/
def World.clockedBy {ρ : Type} (w : World ρ) (clock : BreakerClock) : World ρ :=
  { w with state := { w.state with clock } }

section Updates

variable {policy : Policy} {scope : Scope} {now now₁ t t₁ : Instant} {w w₁ w₂ : World Account} {name : String}
  {desired : Desired} {upToDate : Bool} {state : Observed}

/-- A closed breaker admits an observation, and stays closed if the resource is there. -/
theorem Account.observe_of_closed (scope : Scope) (now : Instant) (hp : policy.IsPreset)
    (hf : w.state.remote.failures = []) (hm : w.state.breaker.mode = .closed) (hname : name.isEmpty = false)
    (desired : Desired) :
    ∃ w', (Lifecycle.observe (Account.client policy) scope name desired).run now w =
        some (.ok (w.state.remote.holdings.observation name desired), now, w') ∧
      w'.state.remote.holdings = w.state.remote.holdings ∧ w'.state.remote.failures = [] ∧
      ((w.state.remote.holdings.at? (desired.place name)).isSome = true → w'.state.breaker.mode = .closed) := by
  obtain ⟨b, hvisit, hclosed⟩ := Breaker.visit_of_closed hm
    (w.state.remote.holdings.at? (desired.place name)).isSome (w.read now)
  obtain ⟨w', hrun, hleaves⟩ := Account.run_observe scope hp hf hname hvisit
  rw [← hleaves.breaker] at hclosed
  exact ⟨w', hrun, hleaves.holdings, hleaves.failures, hclosed⟩

theorem Account.of_run_observe (hp : policy.IsPreset) (hf : w.state.remote.failures = [])
    (hm : w.state.breaker.mode = .closed)
    (h : (Lifecycle.observe (Account.client policy) scope name desired).run now w =
      some (.ok (.present upToDate state), t, w₁)) :
    name.isEmpty = false ∧ w.state.remote.holdings.observation name desired = .present upToDate state ∧
      w₁.state.remote.holdings = w.state.remote.holdings ∧ w₁.state.remote.failures = [] ∧
      w₁.state.breaker.mode = .closed := by
  cases hname : name.isEmpty with
  | true =>
    -- without a name nothing is found
    unfold Lifecycle.observe at h
    rw [if_pos hname] at h
    cases h
  | false =>
    obtain ⟨w', hrun, hholdings, hf', hclosed⟩ := Account.observe_of_closed scope now hp hf hm hname desired
    rw [h] at hrun
    obtain ⟨hfound, hrest⟩ := Prod.mk.inj (Option.some.inj hrun)
    obtain ⟨-, rfl⟩ := Prod.mk.inj hrest
    have hpresent := (Except.ok.inj hfound).symm
    exact ⟨rfl, hpresent, hholdings, hf', hclosed (Holdings.isSome_of_observation hpresent)⟩

/-- Let a resource of any kind be observed under an external name and then be updated under it, in an account that calls
have made, before which no failures are put, under a preset policy and behind a closed breaker. If it was there and the
update succeeds, then it is there and as desired under the name that the update has changed it by. Under the external
name it is so as well if both name the same place, and domains, routes and webhooks are always changed by their external
names. Otherwise a mailing list is absent under its external name, and for the other kinds the next observation is the
same as before. -/
theorem updated_resource_observed (hp : policy.IsPreset) (hr : w.state.remote.Reachable)
    (hf : w.state.remote.failures = []) (hm : w.state.breaker.mode = .closed) {clock₁ : BreakerClock}
    (hobserved : (Lifecycle.observe (Account.client policy) scope name desired).run now w =
      some (.ok (.present upToDate state), t, w₁))
    (hupdated : (Lifecycle.update (Account.client policy) scope name desired).run now₁ (w₁.clockedBy clock₁) =
      some (.ok (), t₁, w₂))
    (scope' : Scope) (now₂ : Instant) (clock₂ : BreakerClock) :
    (∃ state' w₃, (Lifecycle.observe (Account.client policy) scope' (desired.target name) desired).run now₂
      (w₂.clockedBy clock₂) = some (.ok (.present true state'), now₂, w₃)) ∧
    ∃ found w₃, (Lifecycle.observe (Account.client policy) scope' name desired).run now₂ (w₂.clockedBy clock₂) =
        some (.ok found, now₂, w₃) ∧
      ((desired.place name).full = (desired.place (desired.target name)).full →
        ∃ state', found = .present true state') ∧
      ((desired.place name).full ≠ (desired.place (desired.target name)).full →
        found = if desired.moves then .absent else .present upToDate state) := by
  obtain ⟨hname, hbefore, hholdings, hf₁, hm₁⟩ := Account.of_run_observe hp hf hm hobserved
  have ho : w₁.state.remote.holdings.Orderly := by
    rw [hholdings]
    exact hr.orderly
  obtain ⟨hchanged, hf₂, hm₂⟩ := @Account.changedIn_of_update _ _ _ _ (w₁.clockedBy clock₁) _ _ _ hp hf₁ hm₁ ho hname
    hupdated
  obtain ⟨kept, hkept, hmet⟩ := hchanged.asDesired
  obtain ⟨state', htarget⟩ : ∃ state',
      w₂.state.remote.holdings.observation (desired.target name) desired = .present true state' := by
    rw [Holdings.observation_of_kept hkept, show desired.metBy _ = true from hmet]
    exact ⟨_, rfl⟩
  have hobserves := fun {other : String} (hother : other.isEmpty = false) =>
    @Account.observe_of_closed _ (w₂.clockedBy clock₂) _ scope' now₂ hp hf₂ hm₂ hother desired
  obtain ⟨w₃, hrun, -⟩ := hobserves hchanged.named
  obtain ⟨w₄, hrun', -⟩ := hobserves hname
  refine ⟨⟨state', w₃, ?_⟩, _, w₄, hrun', ?_, ?_⟩
  · rw [← htarget]
    exact hrun
  · intro hsame
    exact ⟨state', (Holdings.observation_congr _ hsame).trans htarget⟩
  · intro hne
    cases hmoves : desired.moves with
    | true => exact Holdings.observation_of_not_kept (hchanged.moved hmoves hne)
    | false =>
      have hkeeps : w₂.state.remote.holdings.kept? (desired.place name) =
          w₁.state.remote.holdings.kept? (desired.place name) := hchanged.undisturbed hmoves _ hne
      rw [hholdings] at hkeeps
      exact (Holdings.observation_of_kept?_eq hkeeps).trans hbefore

/-- An account in which one resource has been created. -/
def accountWith {α : Type} (call : Call α) : Account := (Account.answer {} call).2

theorem reachable_accountWith {α : Type} (call : Call α) : (accountWith call).Reachable := .answers call .fresh

/-- The world of an account behind a closed breaker. -/
def worldOf (account : Account) : World Account :=
  ⟨[], .cycle [], ⟨⟨"mailgun", {}, .closed, .closed, 0, 0, none⟩, .ofRun, account⟩⟩

/-- A resource that is there is observed, and then a call is carried out. -/
theorem observed_then_called {account : Account} (hf : account.failures = []) (hname : name.isEmpty = false)
    (hat : (account.holdings.at? (desired.place name)).isSome = true) {α : Type} {call : Call α}
    (hc : Account.check call = .ok ()) {value : α} {after : Holdings}
    (hperform : account.holdings.perform call = .ok (value, after)) :
    ∃ w₁ w₂, (Lifecycle.observe (Account.client .api) .endless name desired).run 0 (worldOf account) =
        some (.ok (account.holdings.observation name desired), 0, w₁) ∧
      (Lifecycle.callOnly (Account.client .api) .endless call).run 1 (w₁.clockedBy .ofRun) = some (.ok (), 1, w₂) ∧
      w₂.state.remote.holdings = after ∧ w₂.state.remote.failures = [] ∧ w₂.state.breaker.mode = .closed := by
  have hp : Policy.api.IsPreset := .inr rfl
  obtain ⟨w₁, hobserved, hholdings, hf₁, hclosed₁⟩ :=
    @Account.observe_of_closed _ (worldOf account) _ .endless 0 hp hf rfl hname desired
  obtain ⟨b, hvisit, hclosed₂⟩ := Breaker.visit_of_closed (hclosed₁ hat) true 1
  have hheld : w₁.state.remote.holdings.perform call = .ok (value, after) := by
    rw [hholdings]
    exact hperform
  obtain ⟨w₂, hcalled, hleaves₂⟩ := @Account.run_callOnly_of_carriedOut _ .endless 1 (w₁.clockedBy .ofRun) _ _ _ hp
    hf₁ hc _ _ hheld hvisit
  refine ⟨w₁, w₂, hobserved, hcalled, hleaves₂.holdings, hleaves₂.failures, ?_⟩
  rw [hleaves₂.breaker]
  exact hclosed₂ rfl

/-- A domain whose spam action is not the desired one has it after an update. -/
theorem updated_domain_observed : Policy.api.IsPreset ∧ (accountWith (.createDomain { name := "a.io" })).Reachable ∧
    ∃ state w₁ w₂,
      (Lifecycle.observe (Account.client .api) .endless "a.io"
          (.domain { name := "a.io", spamAction := some .tag })).run 0
            (worldOf (accountWith (.createDomain { name := "a.io" }))) = some (.ok (.present false state), 0, w₁) ∧
      (Lifecycle.update (Account.client .api) .endless "a.io"
          (.domain { name := "a.io", spamAction := some .tag })).run 1 (w₁.clockedBy .ofRun) =
        some (.ok (), 1, w₂) ∧
      ∃ state' w₃, (Lifecycle.observe (Account.client .api) .endless "a.io"
          (.domain { name := "a.io", spamAction := some .tag })).run 2 (w₂.clockedBy .ofRun) =
        some (.ok (.present true state'), 2, w₃) := by
  have hp : Policy.api.IsPreset := .inr rfl
  have hr := reachable_accountWith (.createDomain { name := "a.io" })
  obtain ⟨w₁, w₂, hobserved, hupdated, -⟩ := @observed_then_called "a.io"
    (.domain { name := "a.io", spamAction := some .tag }) (accountWith (.createDomain { name := "a.io" })) rfl rfl rfl _
    (.updateDomain "a.io" { name := "a.io", spamAction := some .tag }) rfl () _ rfl
  obtain ⟨-, found, w₃, hrun, hsame, -⟩ := updated_resource_observed hp hr rfl rfl hobserved hupdated .endless 2 .ofRun
  obtain ⟨state', rfl⟩ := hsame rfl
  exact ⟨hp, hr, _, w₁, w₂, hobserved, hupdated, state', w₃, hrun⟩

/-- A mailing list that gets another address by an update is absent under the name that the update was given. -/
theorem renamed_list_absent : Policy.api.IsPreset ∧
    (accountWith (.createMailingList { address := "a@x.io" })).Reachable ∧
    ∃ state w₁ w₂ w₃,
      (Lifecycle.observe (Account.client .api) .endless "a@x.io" (.mailingList { address := "b@x.io" })).run 0
          (worldOf (accountWith (.createMailingList { address := "a@x.io" }))) =
        some (.ok (.present false state), 0, w₁) ∧
      (Lifecycle.update (Account.client .api) .endless "a@x.io" (.mailingList { address := "b@x.io" })).run 1
          (w₁.clockedBy .ofRun) = some (.ok (), 1, w₂) ∧
      (Lifecycle.observe (Account.client .api) .endless "a@x.io" (.mailingList { address := "b@x.io" })).run 2 w₂ =
        some (.ok .absent, 2, w₃) := by
  have hp : Policy.api.IsPreset := .inr rfl
  obtain ⟨w₁, w₂, hobserved, hupdated, hholdings, hf, hm⟩ := @observed_then_called "a@x.io"
    (.mailingList { address := "b@x.io" }) (accountWith (.createMailingList { address := "a@x.io" })) rfl rfl rfl _
    (.updateMailingList "a@x.io" { address := "b@x.io" }) rfl _ _ rfl
  obtain ⟨w₃, hrun, -⟩ := @Account.observe_of_closed _ w₂ "a@x.io" .endless 2 hp hf hm rfl
    (.mailingList { address := "b@x.io" })
  have hkept : w₂.state.remote.holdings.kept? (.mailingList "a@x.io") = none := by
    rw [hholdings]
    rfl
  have habsent : w₂.state.remote.holdings.observation "a@x.io" (.mailingList { address := "b@x.io" }) = .absent :=
    Holdings.observation_of_not_kept hkept
  rw [habsent] at hrun
  exact ⟨hp, reachable_accountWith _, _, w₁, w₂, w₃, hobserved, hupdated, hrun⟩

end Updates
end MailReconciler
