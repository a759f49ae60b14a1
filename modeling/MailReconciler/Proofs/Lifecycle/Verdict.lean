/-
What observing and deleting make of an API that is down. Whether a failure means that a resource does not exist is read
off its text, so the rendered text of the failure alone decides: without "404" and "not found" in it, in any letter
case, every such operation fails; with one of them the resource counts as missing, unless the breaker or the scope has
ended the call.
-/
import MailReconciler.Proofs.Client.Attempts
import MailReconciler.Proofs.Lifecycle.Calls

namespace MailReconciler

/-! ## Failures that tell nothing about a resource -/

/-- No usable answer arrived, or one that says that the API is overloaded or broken. -/
inductive ApiFailure.OfOutage : ApiFailure → Prop
  | transport (detail : String) (timedOut connecting : Bool) : OfOutage (.transport detail timedOut connecting)
  | overloaded (method path detail : String) : OfOutage (.status method path 429 detail)
  | broken (method path detail : String) {code : Nat} : 500 ≤ code → OfOutage (.status method path code detail)

theorem ApiFailure.OfOutage.isNotFound_eq {e : ApiFailure} (h : e.OfOutage) :
    e.isNotFound = saysNotFound e.message := by
  have hcode : (e.code? == some 404) = false := by
    cases h with
    | transport _ _ _ => rfl
    | overloaded _ _ _ => rfl
    | @broken _ _ _ code hle =>
      have hne : code ≠ 404 := by omega
      simp [code?, hne]
  unfold isNotFound
  rw [hcode, Bool.false_or]

/-- Every attempt of a call fails with an error, whatever happens meanwhile. -/
def Service.FailsWith {ρ α : Type} (service : Service ρ) (call : Call α) (e : ApiFailure) : Prop :=
  ∀ now, (service.perform call).Ends (fun outcome _ => outcome = .error e) now

/-- How a call can fail whose attempts all fail with an error: with that error, or at the breaker, or with its scope. -/
inductive CallFailure.Follows (e : ApiFailure) : CallFailure → Prop
  | refused (operation : String) : Follows e (.refused operation e)
  | exhausted (operation : String) (attempts : Nat) : Follows e (.exhausted operation attempts e)
  | rejected (operation breaker : String) : Follows e (.rejected operation breaker)
  | cancelled (operation : String) (attempts : Option Nat) (reason : EndReason) (last : Option ApiFailure) :
      Follows e (.cancelled operation attempts reason last)

section Calls

variable {ρ α β : Type} {client : Client ρ} {scope : Scope} {call : Call α} {e : ApiFailure}

theorem CallFailure.follows_ofRetry {f : RetryFailure (BreakerFailure ApiFailure)}
    (h : ∀ e', f.last = .operation e' → e' = e) : Follows e (ofRetry f) := by
  cases f with
  | exhausted operation attempts last =>
    cases last with
    | rejected breaker => exact .rejected operation breaker
    | interrupted breaker reason => exact .cancelled operation none reason none
    | operation e' =>
      obtain rfl := h e' rfl
      exact .exhausted operation attempts
  | permanent operation attempts last =>
    cases last with
    | rejected breaker => exact .rejected operation breaker
    | interrupted breaker reason => exact .cancelled operation none reason none
    | operation e' =>
      obtain rfl := h e' rfl
      exact .refused operation
  | cancelled operation attempts reason last => exact .cancelled operation (some attempts) reason last.operation?

/-- A call whose attempts all fail fails. -/
theorem ends_call_of_failsWith (h : client.service.FailsWith call e) (now : Instant) :
    (client.call scope call).Ends (fun result _ => ∃ f, result = .error f ∧ f.Follows e) now := by
  have hop : ∀ (k : Nat) at', (throughBreaker scope (client.service.perform call)).Ends
      (fun result _ => ∀ outcome, reply? result = some outcome → outcome = .error e) at' := by
    intro _ at'
    exact ends_throughBreaker_of_ends scope (h at')
  refine Work.ends_bind.2 (ends_callFrom.2 ((Retry.ends_attemptFrom_of_last hop _ _ _).mono ?_))
  rintro ⟨attempts, f | value⟩ t hlast
  · refine ⟨_, rfl, CallFailure.follows_ofRetry ?_⟩
    intro e' he
    have hreply : reply? (.error f.last : Except (BreakerFailure ApiFailure) α) = some (.error e') := by
      rw [he]
      rfl
    exact Except.error.inj (hlast _ hreply)
  · cases hlast _ rfl

/-! ## Verdicts -/

/-- What is made of a failure whose text alone may say that there is nothing: the text decides, unless the breaker or
the scope has ended the call. -/
def Verdict (e : ApiFailure) (missing : β) (result : Except CallFailure β) : Prop :=
  if ApiFailure.saysNotFound e.message then
    result = .ok missing ∨ ∃ f, result = .error f ∧ (f.isRejection = true ∨ f.isCancelled = true)
  else ∃ f, result = .error f ∧ f.Follows e

theorem verdict_of_follows {f : CallFailure} (he : e.OfOutage) (hf : f.Follows e) (missing : β) :
    Verdict e missing (if f.isNotFound then .ok missing else .error f) := by
  unfold Verdict
  cases hmentions : ApiFailure.saysNotFound e.message with
  | false =>
    -- no failure that follows from this error counts as one about a missing resource
    have hnot : f.isNotFound = false := by
      cases hf with
      | refused _ => exact he.isNotFound_eq.trans hmentions
      | exhausted _ _ => exact he.isNotFound_eq.trans hmentions
      | rejected _ _ => rfl
      | cancelled _ _ _ _ => rfl
    simp only [hnot, Bool.false_eq_true, if_false]
    exact ⟨f, rfl, hf⟩
  | true =>
    -- it counts as one where the error itself comes through
    have hfound : e.isNotFound = true := he.isNotFound_eq.trans hmentions
    rw [if_pos rfl]
    cases hf with
    | refused _ => exact .inl (if_pos hfound)
    | exhausted _ _ => exact .inl (if_pos hfound)
    | rejected _ _ => exact .inr ⟨_, rfl, .inl rfl⟩
    | cancelled _ _ _ _ => exact .inr ⟨_, rfl, .inr rfl⟩

namespace Lifecycle

/-- An operation that is one call, settled so that a failure about a missing resource is no failure. -/
theorem ends_settled (h : client.service.FailsWith call e) (he : e.OfOutage)
    {settle : Except CallFailure α → Except CallFailure β} {missing : β}
    (hsettle : ∀ f, settle (.error f) = if f.isNotFound then .ok missing else .error f) (now : Instant) :
    ((client.call scope call).bind fun answer => .done (settle answer)).Ends
      (fun result _ => Verdict e missing result) now := by
  refine Work.ends_bind.2 ((ends_call_of_failsWith h now).mono ?_)
  rintro _ t ⟨f, rfl, hf⟩
  show Verdict e missing (settle (.error f))
  rw [hsettle]
  exact verdict_of_follows he hf missing

/-- Let every attempt of the call behind an operation fail with an error that tells nothing about a resource. Then
observing a resource by its name or by its identifier, and deleting it, come to an end whatever happens meanwhile. They
fail if the text of the error mentions neither "404" nor "not found"; if it does, they find nothing to observe or to
delete, or the breaker or the scope has ended the call. An observation that needs no call is refused. -/
theorem outage_verdicts (client : Client ρ) (scope : Scope) {e : ApiFailure} (he : e.OfOutage) (now : Instant) :
    (∀ name desired, name.isEmpty = false → client.service.FailsWith (desired.place name).get e →
      (observe client scope name desired).Ends (fun result _ => Verdict e .absent result) now) ∧
    (∀ kind domain id, match Place.ofId? kind domain id with
      | some p => client.service.FailsWith p.get e →
          (observeById client scope kind domain id).Ends (fun result _ => Verdict e none result) now
      | none => ∃ f, observeById client scope kind domain id = .done (.error f)) ∧
    ∀ name desired, client.service.FailsWith (desired.place name).delete e →
      (delete client scope name desired).Ends (fun result _ => Verdict e () result) now := by
  refine ⟨?_, ?_, ?_⟩
  · intro name desired hname h
    rw [observe_eq client scope hname]
    exact ends_settled h he (fun f => map_found_error f _) now
  · intro kind domain id
    cases hplace : Place.ofId? kind domain id with
    | some p =>
      intro h
      rw [observeById_of_some client scope hplace]
      exact ends_settled h he (fun f => map_found_error f _) now
    | none => exact observeById_of_none client scope hplace
  · intro name desired h
    rw [delete_eq]
    exact ends_settled h he gone_error now

/-- A client of an API that answers every call with one error. -/
def clientOfDown (e : ApiFailure) : Client Unit := ⟨⟨fun _ => .done (.error e)⟩, .api⟩

theorem failsWith_clientOfDown (e : ApiFailure) (call : Call α) : (clientOfDown e).service.FailsWith call e :=
  fun _ => rfl

/-- A world with a new breaker. -/
def freshWorld : World Unit := ⟨[], .cycle [], ⟨"mailgun", {}, .closed, .closed, 0, 0, none⟩, .ofRun, ()⟩

theorem busy_api_reported : (ApiFailure.status "GET" "/v4/domains/a.io" 503 "busy").OfOutage ∧
    ∃ f t w', (observe (clientOfDown (.status "GET" "/v4/domains/a.io" 503 "busy")) .endless "a.io"
      (.domain { name := "a.io" })).run 0 freshWorld = some (.error f, t, w') := by
  have he : (ApiFailure.status "GET" "/v4/domains/a.io" 503 "busy").OfOutage := .broken _ _ _ (by decide)
  have hmentions : ApiFailure.saysNotFound (ApiFailure.status "GET" "/v4/domains/a.io" 503 "busy").message = false := by
    decide +kernel
  obtain ⟨hobserve, -, -⟩ := outage_verdicts (clientOfDown (.status "GET" "/v4/domains/a.io" 503 "busy")) .endless he 0
  obtain ⟨result, t, w', hrun, hverdict⟩ :=
    (hobserve "a.io" (.domain { name := "a.io" }) rfl (failsWith_clientOfDown _ _)).run freshWorld
  unfold Verdict at hverdict
  rw [hmentions] at hverdict
  obtain ⟨f, rfl, -⟩ := hverdict
  exact ⟨he, f, t, w', hrun⟩

/-- An error of an API that is down, which speaks of a page. -/
def pageMissing : ApiFailure := .status "GET" "/v4/domains/a.io" 500 "page not found"

theorem run_call_pageMissing (call : Call α) : ∃ w', ((clientOfDown pageMissing).call .endless call).run 0 freshWorld =
    some (.error (.refused call.name pageMissing), 0, w') := by
  have hpermanent : Policy.api.retries (.operation pageMissing : BreakerFailure ApiFailure) = false := by decide +kernel
  have hop : (throughBreaker .endless ((clientOfDown pageMissing).service.perform call)).run 0 freshWorld =
      some (.error (.operation pageMissing), 0, World.record false 0 freshWorld) := rfl
  have hmakes : Retry.Makes .api .endless call.name
      (fun _ => throughBreaker .endless ((clientOfDown pageMissing).service.perform call)) 4 1 0 freshWorld _ 0 _ :=
    .gives hop hpermanent
  exact ⟨_, run_call hmakes⟩

/-- An API that is down and speaks of a missing page makes a domain absent: it is observed as absent, by its name and by
its identifier, and its deletion succeeds. -/
theorem missing_page_hides_domain : pageMissing.OfOutage ∧
    (clientOfDown pageMissing).service.FailsWith (.getDomain "a.io") pageMissing ∧
    (clientOfDown pageMissing).service.FailsWith (.deleteDomain "a.io") pageMissing ∧
    (∃ t w', (observe (clientOfDown pageMissing) .endless "a.io" (.domain { name := "a.io" })).run 0 freshWorld =
      some (.ok .absent, t, w')) ∧
    (∃ t w', (observeById (clientOfDown pageMissing) .endless .domain none "a.io").run 0 freshWorld =
      some (.ok none, t, w')) ∧
    ∃ t w', (delete (clientOfDown pageMissing) .endless "a.io" (.domain { name := "a.io" })).run 0 freshWorld =
      some (.ok (), t, w') := by
  have hnotFound : pageMissing.isNotFound = true := by decide +kernel
  have hmissing : ∀ operation, (CallFailure.refused operation pageMissing).isNotFound = true := fun _ => hnotFound
  obtain ⟨w₁, hget⟩ := run_call_pageMissing (.getDomain "a.io")
  obtain ⟨w₂, hdelete⟩ := run_call_pageMissing ((Desired.domain { name := "a.io" }).place "a.io").delete
  refine ⟨.broken _ _ _ (by decide), failsWith_clientOfDown _ _, failsWith_clientOfDown _ _, ⟨0, w₁, ?_⟩, ⟨0, w₁, ?_⟩,
    ⟨0, w₂, ?_⟩⟩
  · refine (run_lookUp hget _ _).trans ?_
    rw [map_found_error, if_pos (hmissing _)]
  · refine (run_lookUpJson hget).trans ?_
    rw [map_found_error, if_pos (hmissing _)]
    rfl
  · refine (run_delete hdelete).trans ?_
    rw [gone_error, if_pos (hmissing _)]

end Lifecycle

end Calls
end MailReconciler
