/-
Desired states that their check refuses. Such a state is not created, and not made of what exists: the refusal is an
invalid request, and nothing has been asked or changed (`create_of_refused`, `update_of_refused`). Two kinds skip the
check when they are changed, domains and templates: their update asks the API whatever the state is
(`le_callsTo_update`).
-/
import MailReconciler.Proofs.Lifecycle.Changing

namespace MailReconciler

/-! ## Checks -/

/-- A check that has nothing to say but that a request is invalid. -/
def Refuses (check : Except ApiFailure Unit) : Prop := ∀ e, check = .error e → ∃ detail, e = .invalidRequest detail

theorem refuses_ok : Refuses (.ok ()) := fun _ h => by cases h

theorem refuses_invalidRequest (detail : String) : Refuses (.error (.invalidRequest detail)) := fun _ h => by
  cases h
  exact ⟨detail, rfl⟩

theorem refuses_requireText (field value : String) : Refuses (requireText field value) := by
  unfold requireText
  split
  · exact refuses_invalidRequest _
  · exact refuses_ok

theorem Refuses.bind {first : Except ApiFailure Unit} {next : Unit → Except ApiFailure Unit} (h : Refuses first)
    (h' : Refuses (next ())) : Refuses (first >>= next) := by
  cases first with
  | error e => exact fun e' he' => h e' he'
  | ok _ => exact h'

namespace Desired

variable {desired : Desired} {e : ApiFailure}

theorem refuses_check (desired : Desired) : Refuses desired.check := by
  cases desired with
  | domain _ | mailingList _ => exact refuses_requireText _ _
  | route r =>
    refine (refuses_requireText _ _).bind ?_
    split
    · exact refuses_invalidRequest _
    · exact refuses_ok
  | webhook w =>
    refine (refuses_requireText _ _).bind ?_
    split
    · exact refuses_invalidRequest _
    · split
      · exact refuses_invalidRequest _
      · exact refuses_ok
  | credential _ | template _ =>
    exact (refuses_requireText _ _).bind ((refuses_requireText _ _).bind (refuses_requireText _ _))
  | bounce _ | complaint _ | unsubscribe _ => exact (refuses_requireText _ _).bind (refuses_requireText _ _)

/-- The operation that creates a resource. -/
def creation : Desired → String
  | .domain _ => "create_domain"
  | .route _ => "create_route"
  | .mailingList _ => "create_mailing_list"
  | .webhook _ => "create_webhook"
  | .credential _ => "create_smtp_credential"
  | .template _ => "create_template"
  | .bounce _ => "create_bounce"
  | .complaint _ => "create_complaint"
  | .unsubscribe _ => "create_unsubscribe"

/-- The operation that changes a resource; a suppression entry is created anew. -/
def change : Desired → String
  | .domain _ => "update_domain"
  | .route _ => "update_route"
  | .mailingList _ => "update_mailing_list"
  | .webhook _ => "update_webhook"
  | .credential _ => "update_smtp_credential_password"
  | .template _ => "update_template"
  | .bounce _ => "create_bounce"
  | .complaint _ => "create_complaint"
  | .unsubscribe _ => "create_unsubscribe"

/-- Whether a resource is changed without a look at the desired state. -/
def changesUnchecked : Desired → Bool
  | .domain _ | .template _ => true
  | _ => false

end Desired

namespace Lifecycle

variable {ρ α : Type} {client : Client ρ} {scope : Scope} {desired : Desired} {e : ApiFailure} {name : String}

/-! ## Refused states -/

theorem checked_of_error (operation : String) (work : Work (World ρ) (Except CallFailure α)) :
    checked operation (.error e) work = .done (.error (.refused operation e)) :=
  rfl

/-- A refused state is not created. -/
theorem create_of_refused (h : desired.check = .error e) :
    create client scope desired = .done (.error (.refused desired.creation e)) := by
  cases desired <;> exact (congrArg (checked _ · _) h).trans (checked_of_error ..)

/-- What exists is not changed to a refused state, if the state is looked at. -/
theorem update_of_refused (h : desired.check = .error e) (hchecked : desired.changesUnchecked = false) :
    update client scope name desired = .done (.error (.refused desired.change e)) := by
  cases desired with
  | domain _ | template _ => cases hchecked
  | route _ | mailingList _ | webhook _ | credential _ =>
    exact (congrArg (checked _ · _) h).trans (checked_of_error ..)
  | bounce _ | complaint _ | unsubscribe _ =>
    exact congrArg (Work.bind · fun answer => .done (answer.map fun _ => ())) (create_of_refused h)

/-- A resource that is changed without a look at the desired state is changed by a call that accepts any state. -/
theorem exists_call_of_changesUnchecked (h : desired.changesUnchecked = true) (name : String) :
    ∃ call : Call Unit, call.name = desired.change ∧ Account.check call = .ok () ∧
      ∀ (client : Client Account) scope, update client scope name desired = callOnly client scope call := by
  cases desired with
  | domain d => exact ⟨.updateDomain name d, rfl, rfl, fun _ _ => rfl⟩
  | template t => exact ⟨.updateTemplate t, rfl, rfl, fun _ _ => rfl⟩
  | route _ | mailingList _ | webhook _ | credential _ | bounce _ | complaint _ | unsubscribe _ => cases h

/-- A change without a look at the desired state ends, and asks the account if the breaker lets it. -/
theorem le_callsTo_update (h : desired.changesUnchecked = true) (policy : Policy) (scope : Scope) (name : String)
    (start : Instant) (w : World Account) :
    ∃ result t w', (update (Account.client policy) scope name desired).run start w = some (result, t, w') ∧
      w.state.remote.callsTo desired.change + (World.allow start w).1.toNat ≤
        w'.state.remote.callsTo desired.change := by
  obtain ⟨call, hname, hc, hupdate⟩ := exists_call_of_changesUnchecked h name
  obtain ⟨result, t, w', hrun, -, hcalls, -⟩ := call_has_effect_of_one policy scope call start w
  have hfirst : (World.allow start w).1.toNat ≤ admitted (Retry.begins policy scope call.name
      (asking scope call) (Retry.spare policy) 1 start w) := by
    cases Retry.spare policy with
    | zero => exact (admitted_singleton start w).ge
    | succ spare => exact (Nat.le_add_right ..).trans (admitted_cons start w _).ge
  rw [← hname, hupdate]
  exact ⟨_, t, w', Work.run_bind_of_some _ hrun, (Nat.add_le_add_left hfirst _).trans (hcalls hc).ge⟩

/-- A state that its check refuses is not created, under any name, through any client and in any world: the result is an
invalid request of the operation, and the world is as before, with its samples, its breaker and its remote state. Nor
does it become the state of what exists, except of a domain or a template: these are changed without a look at the
state, and if the breaker lets the call through, the account is asked. -/
theorem invalid_state_refused (h : desired.check = .error e) (client : Client ρ) (scope : Scope) (name : String)
    (now : Instant) (w : World ρ) :
    (∃ detail, e = .invalidRequest detail) ∧
    (create client scope desired).run now w = some (.error (.refused desired.creation e), now, w) ∧
    (desired.changesUnchecked = false →
      (update client scope name desired).run now w = some (.error (.refused desired.change e), now, w)) ∧
    (desired.changesUnchecked = true → ∀ policy start (w : World Account), (World.allow start w).1 = true →
      ∃ result t w', (update (Account.client policy) scope name desired).run start w = some (result, t, w') ∧
        w.state.remote.callsTo desired.change < w'.state.remote.callsTo desired.change) := by
  refine ⟨desired.refuses_check e h, ?_, fun hchecked => ?_, fun hunchecked policy start w hallow => ?_⟩
  · rw [create_of_refused h]
    rfl
  · rw [update_of_refused h hchecked]
    rfl
  · obtain ⟨result, t, w', hrun, hcalls⟩ := le_callsTo_update hunchecked policy scope name start w
    rw [hallow] at hcalls
    exact ⟨result, t, w', hrun, hcalls⟩

/-- A route without an expression and a domain without a name, at a fresh account. -/
theorem empty_route_refused :
    (create (Account.client .api) .endless (.route {})).run 0 (worldOf {}) =
      some (.error (.refused "create_route" (.invalidRequest "expression must not be empty")), 0, worldOf {}) ∧
    (update (Account.client .api) .endless "000000000000000000000001" (.route {})).run 0 (worldOf {}) =
      some (.error (.refused "update_route" (.invalidRequest "expression must not be empty")), 0, worldOf {}) ∧
    ∃ result t w', (update (Account.client .api) .endless "a.io" (.domain {})).run 0 (worldOf {}) =
      some (result, t, w') ∧ (worldOf {}).state.remote.callsTo "update_domain" <
        w'.state.remote.callsTo "update_domain" := by
  have hroute : (Desired.route {}).check = .error (.invalidRequest "expression must not be empty") := by decide
  have hdomain : (Desired.domain {}).check = .error (.invalidRequest "name must not be empty") := by decide
  have hrefused := invalid_state_refused hroute (Account.client .api) .endless "000000000000000000000001" 0 (worldOf {})
  have hasked := invalid_state_refused hdomain (Account.client .api) .endless "a.io" 0 (worldOf {})
  exact ⟨hrefused.2.1, hrefused.2.2.1 rfl, hasked.2.2.2 rfl .api 0 (worldOf {}) (by decide)⟩

/-- States without a name are refused by their check, and yet an update of a template asks for the template without a
name, which does not exist, and an update of a domain succeeds. -/
theorem nameless_updates_sent :
    (Desired.template { domain := "mg.example.com", template := "Hi" }).check =
      .error (.invalidRequest "name must not be empty") ∧
    (∃ w', (update (Account.client .api) .endless "welcome"
        (.template { domain := "mg.example.com", template := "Hi" })).run 0 (worldOf {}) =
          some (.error (.refused "update_template"
            (.status "PUT" "/v3/mg.example.com/templates/" 404 "template not found")), 0, w') ∧
        w'.state.remote.callsTo "update_template" = 1) ∧
    (Desired.domain {}).check = .error (.invalidRequest "name must not be empty") ∧
    ∃ w', (update (Account.client .api) .endless "a.io" (.domain {})).run 0
      (worldOf (accountWith (.createDomain { name := "a.io" }))) = some (.ok (), 0, w') := by
  have hp : Policy.api.IsPreset := .inr rfl
  obtain ⟨spare, hspare⟩ := hp.spare_eq
  refine ⟨by decide, ?_, by decide, ?_⟩
  · have hanswer : (worldOf {}).state.remote.answer (.updateTemplate { domain := "mg.example.com", template := "Hi" }) =
        (.error (.status "PUT" "/v3/mg.example.com/templates/" 404 "template not found"),
          Account.countCall {} "update_template") := by decide
    have hkept : Policy.api.retries (.operation
        (.status "PUT" "/v3/mg.example.com/templates/" 404 "template not found") : BreakerFailure ApiFailure) =
          false := by decide +kernel
    obtain ⟨w', hrun, hstate⟩ := run_call_of_admitted .endless hspare (congrArg Prod.fst hanswer)
      (fun e he => by cases he; exact hkept) (b := _) rfl
    refine ⟨w', Work.run_bind_of_some _ hrun, ?_⟩
    rw [hstate, hanswer]
    decide
  · obtain ⟨w', hrun, -⟩ := @Account.run_callOnly_of_carriedOut .api .endless 0
      (worldOf (accountWith (.createDomain { name := "a.io" }))) _ (.updateDomain "a.io" {}) _ hp rfl rfl () _ rfl rfl
    exact ⟨w', hrun⟩

end Lifecycle
end MailReconciler
