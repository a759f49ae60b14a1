/-
What a deletion addresses. A resource is deleted at the path of its collection with its external name as one more
segment, and no other request is handed over; the carrier may follow redirections of this one. An empty name, or one of
dots, is a segment like any other, although such a segment does not name anything within the collection: servers read it
as the collection itself or what is above it. An observation asks for nothing under an empty name; a deletion is sent,
and an answer of success is its own.
-/
import MailReconciler.Proofs.Http.Acknowledgement
import MailReconciler.Proofs.Http.Requests
import MailReconciler.Proofs.Http.Targets
import MailReconciler.Proofs.Lifecycle.Calls

namespace MailReconciler

-- only whether a request can be built matters here, and not what its URL comes to
attribute [local irreducible] Transport.prepare

/-! ## Paths -/

/-- The last part of a path. -/
def lastPart? (path : String) : Option String := (pathParts path).getLast?

theorem lastPart?_segment (path name : String) :
    lastPart? (path ++ "/" ++ Text.segment name) = some (Text.segment name) := by
  rw [lastPart?, pathParts_append, pathParts_of_not_mem (Text.slash_not_mem_segment name), List.getLast?_concat]

theorem Text.segment_inj {text text' : String} (h : segment text = segment text') : text = text' := by
  have hdecode := decodeStrict?_segment text
  rw [h, decodeStrict?_segment] at hdecode
  exact (Option.some.inj hdecode).symm

/-- The segments that name nothing within a collection. -/
def unnamed : List String := ["", ".", ".."]

theorem segment_of_mem_unnamed : ∀ name ∈ unnamed, Text.segment name = name := by decide +kernel

/-- These texts, and no others, are written as such segments. -/
theorem segment_mem_unnamed_iff (name : String) : Text.segment name ∈ unnamed ↔ name ∈ unnamed := by
  constructor
  · intro h
    have hname : Text.segment (Text.segment name) = Text.segment name := segment_of_mem_unnamed _ h
    rwa [Text.segment_inj hname] at h
  · intro h
    rwa [segment_of_mem_unnamed name h]

/-- The path of the collection that a resource belongs to. -/
def Desired.collection : Desired → String
  | .domain _ => "/v3/domains"
  | .route _ => "/v3/routes"
  | .mailingList _ => "/v3/lists"
  | .webhook w => Endpoint.webhooks w.domain
  | .credential c => Endpoint.credentials c.domain
  | .template t => Endpoint.entries t.domain "templates"
  | .bounce b => Endpoint.entries b.domain "bounces"
  | .complaint c => Endpoint.entries c.domain "complaints"
  | .unsubscribe u => Endpoint.entries u.domain "unsubscribes"

/-- A resource of any kind but one is deleted at the segment of its external name. -/
theorem Desired.request_delete (name : String) {desired : Desired} (h : desired.kind ≠ .webhook) :
    (desired.place name).delete.request = Endpoint.delete (desired.collection ++ "/" ++ Text.segment name) := by
  have hdomains : "/v3/domains" ++ "/" = "/v3/domains/" := by decide
  have hroutes : "/v3/routes" ++ "/" = "/v3/routes/" := by decide
  have hlists : "/v3/lists" ++ "/" = "/v3/lists/" := by decide
  cases desired with
  | domain _ => rw [collection, hdomains]; rfl
  | route _ => rw [collection, hroutes]; rfl
  | mailingList _ => rw [collection, hlists]; rfl
  | webhook _ => exact absurd rfl h
  | credential _ | template _ | bounce _ | complaint _ | unsubscribe _ => rfl

/-! ## Requests other than one -/

/-- How many requests have been handed over that are not a given one. -/
def Noted.handedOverBut {ρ : Type} (request : Option SentRequest) (n : Noted ρ) : Nat :=
  n.requests.countP fun note => request ≠ some note.2

section Calls

variable {ρ α : Type} {names : HostNames} {complaints : Json.Complaints} {t : Transport} {c : Carrier ρ}
  {count : ρ → Nat} {policy : Policy} {scope : Scope}

/-- A call does nothing that its carrier does not do for its request. -/
theorem spends_call_of_none (call : Call α)
    (hsend : ∀ sent, t.prepare names call.request = .ok sent → (c.send t.timeout sent).Spends count 0)
    (hbody : ∀ answer, (c.body answer).Spends count 0) :
    (Client.call ⟨t.service names complaints c, policy⟩ scope call).Spends (fun w => count w.state.remote) 0 := by
  have hcall := @spends_attempts _ _ policy scope _ _ (t.service names complaints c) call
    (Transport.spends_perform call hsend hbody)
  rwa [Nat.mul_zero, Nat.mul_zero] at hcall

/-- A request is not another one. -/
theorem spends_noted_itself (timeout : Duration) (sent : SentRequest) :
    (c.noted.send timeout sent).Spends (Noted.handedOverBut (some sent)) 0 := by
  refine Carrier.spends_noted_send timeout fun now requests => ?_
  rw [List.countP_append, List.countP_singleton]
  simp

/-- However far a call gets, it hands over its own request or none. -/
theorem spends_handedOverBut (call : Call α) :
    (Client.call ⟨t.service names complaints c.noted, policy⟩ scope call).Spends
      (fun w => w.state.remote.handedOverBut (t.prepare names call.request).toOption) 0 := by
  refine spends_call_of_none call (fun sent hsent => ?_) (fun answer => Carrier.spends_noted_body (c := c) _ answer)
  rw [hsent]
  exact spends_noted_itself t.timeout sent

end Calls

/-! ## Deletions -/

section Deletions

variable {ρ : Type} {names : HostNames} {complaints : Json.Complaints} {t : Transport} {c : Carrier ρ}
  {policy : Policy} {scope : Scope} {name : String} {desired : Desired} {sent : SentRequest} {r : Received}
  {now u : Instant} {w : World (Noted ρ)} {s : ρ}

/-- A deletion that is let through and accepted ends with its answer, and has sent its request. -/
theorem run_delete_of_answers (hsent : t.prepare names (desired.place name).delete.request = .ok sent)
    (hmode : w.state.breaker.mode ≠ .opened) (hanswer : c.Answers t.timeout sent now w.state.remote.below r u s)
    (hscope : ∀ stop, scope.endsAt = some stop → u ≤ max now stop) (hstatus : 200 ≤ r.status ∧ r.status < 300)
    (hreadable : Http.isReadable r = true) :
    ∃ w', (Lifecycle.delete ⟨t.service names complaints c.noted, policy⟩ scope name desired).run now w =
        some (.ok (), u, w') ∧
      w'.state.remote.requests = w.state.remote.requests ++ [(now, sent)] := by
  have hunit : (t.sendUnit names complaints c.noted (desired.place name).delete.request).run now w.state.remote = _ :=
    Transport.run_sendUnit_of_answers hsent (hanswer.noted w.state.remote.requests) hstatus
  have hcall : ∀ read : {β : Type} → Json.Decoder β → Except ApiFailure β,
      (desired.place name).delete.understand read = read .ignored := fun _ => by
    cases desired <;> rfl
  rw [hreadable, if_pos rfl, ← Transport.perform_eq_sendUnit hcall] at hunit
  obtain ⟨w', hrun, -, -, hremote⟩ := run_throughBreaker_of_run hunit hscope hmode
  have hmakes : Retry.Makes policy scope (desired.place name).delete.name
      (fun _ => throughBreaker scope ((t.service names complaints c.noted).perform (desired.place name).delete))
      (Retry.spare policy) 1 now w ⟨1, .ok ()⟩ u _ := .succeeds hrun
  refine ⟨_, Lifecycle.run_delete (run_call hmakes), ?_⟩
  show w'.state.remote.requests = _
  rw [hremote]

end Deletions

/-- However far a deletion gets, it hands over the request that deletes the segment of its external name in the
collection and no other, and nothing comes of it that the carrier does not do for this request; only a webhook is not
deleted by its name. The segment is empty or one of dots if and only if the name is. Whatever it is, a deletion that is
let through and accepted in time has sent its request. An observation without a name asks for nothing. -/
theorem deletion_addresses_name {ρ : Type} (names : HostNames) (complaints : Json.Complaints) (t : Transport)
    (c : Carrier ρ) (policy : Policy) (scope : Scope) (name : String) {desired : Desired}
    (hkind : desired.kind ≠ .webhook) :
    lastPart? (desired.collection ++ "/" ++ Text.segment name) = some (Text.segment name) ∧
    (Text.segment name ∈ unnamed ↔ name ∈ unnamed) ∧
    (Lifecycle.delete ⟨t.service names complaints c.noted, policy⟩ scope name desired).Spends
      (fun w => w.state.remote.handedOverBut
        (t.prepare names (Endpoint.delete (desired.collection ++ "/" ++ Text.segment name))).toOption) 0 ∧
    (∀ count : ρ → Nat,
      (∀ sent, t.prepare names (Endpoint.delete (desired.collection ++ "/" ++ Text.segment name)) = .ok sent →
        (c.send t.timeout sent).Spends count 0) → (∀ answer, (c.body answer).Spends count 0) →
      (Lifecycle.delete ⟨t.service names complaints c, policy⟩ scope name desired).Spends
        (fun w => count w.state.remote) 0) ∧
    (∀ sent, t.prepare names (Endpoint.delete (desired.collection ++ "/" ++ Text.segment name)) = .ok sent →
      ∀ (now u : Instant) (w : World (Noted ρ)) (status : Nat) (body : List UInt8) (r : ρ),
        w.state.breaker.mode ≠ .opened → c.Answers t.timeout sent now w.state.remote.below ⟨status, body⟩ u r →
        (∀ stop, scope.endsAt = some stop → u ≤ max now stop) →
        200 ≤ status ∧ status < 300 → Http.isReadable ⟨status, body⟩ = true →
        ∃ w', (Lifecycle.delete ⟨t.service names complaints c.noted, policy⟩ scope name desired).run now w =
            some (.ok (), u, w') ∧
          w'.state.remote.requests = w.state.remote.requests ++ [(now, sent)]) ∧
    Lifecycle.observe ⟨t.service names complaints c, policy⟩ scope "" desired = .done (.ok .absent) := by
  rw [← desired.request_delete name hkind]
  refine ⟨lastPart?_segment _ _, segment_mem_unnamed_iff name, ?_, fun count hsend hbody => ?_, ?_, rfl⟩
  · rw [Lifecycle.delete_eq]
    exact Work.spends_bind (fun _ => Work.spends_done _ 0) (spends_handedOverBut (desired.place name).delete)
  · rw [Lifecycle.delete_eq]
    exact Work.spends_bind (fun _ => Work.spends_done _ 0) (spends_call_of_none _ hsend hbody)
  · intro sent hsent now u w status body r hmode hanswer hscope hstatus hreadable
    exact run_delete_of_answers hsent hmode hanswer hscope hstatus hreadable

/-- A carrier to a server that accepts what it is asked for. -/
def acceptingCarrier : Carrier Nat := .alike ⟨200, Text.encode "\x7b\x7d"⟩ 1 30000000

def bouncedAddress : Desired := .bounce { domain := "mg.example.com", address := "a@b.io" }

/-- A request is built if its target is known. -/
theorem exists_prepare_of_target {names : HostNames} {t : Transport} {request : Request} {target : String}
    (h : (t.prepare names request).toOption.map SentRequest.target = some target) :
    ∃ sent, t.prepare names request = .ok sent ∧ sent.target = target := by
  cases hsent : t.prepare names request with
  | error e => rw [hsent] at h; cases h
  | ok sent =>
    rw [hsent] at h
    exact ⟨sent, rfl, Option.some.inj h⟩

theorem isReadable_accepted : Http.isReadable ⟨200, Text.encode "\x7b\x7d"⟩ = true := by decide +kernel

/-- A bounced address is deleted where it stands, and nothing else is asked for. -/
theorem bounced_address_deleted : bouncedAddress.kind ≠ .webhook ∧ ∃ sent w',
    sent.target = "/v3/mg.example.com/bounces/a%40b.io" ∧
    (Lifecycle.delete ⟨plainTransport.service .plain .placeless acceptingCarrier.noted, .api⟩ .endless "a@b.io"
      bouncedAddress).Spends (fun w => w.state.remote.handedOverBut (some sent)) 0 ∧
    (Lifecycle.delete ⟨plainTransport.service .plain .placeless acceptingCarrier.noted, .api⟩ .endless "a@b.io"
      bouncedAddress).run 0 (idleWorld ⟨[], 0⟩) = some (.ok (), 30000000, w') ∧
    w'.state.remote.requests = [(0, sent)] := by
  have hkind : bouncedAddress.kind ≠ .webhook := by decide
  have htarget : (plainTransport.prepare .plain (Endpoint.delete
      (bouncedAddress.collection ++ "/" ++ Text.segment "a@b.io"))).toOption.map SentRequest.target =
        some "/v3/mg.example.com/bounces/a%40b.io" := by decide +kernel
  obtain ⟨-, -, -, -, hsends, -⟩ := deletion_addresses_name .plain .placeless plainTransport acceptingCarrier .api
    .endless "a@b.io" hkind
  obtain ⟨-, -, -, hnothing, -⟩ := deletion_addresses_name .plain .placeless plainTransport acceptingCarrier.noted .api
    .endless "a@b.io" hkind
  obtain ⟨sent, hsent, hnamed⟩ := exists_prepare_of_target htarget
  obtain ⟨w', hrun, hrequests⟩ := hsends sent hsent 0 _ (idleWorld ⟨[], 0⟩) 200 _ _ (by decide)
    (Carrier.answers_alike _ _ _ _) nofun (by decide) isReadable_accepted
  refine ⟨hkind, sent, w', hnamed, hnothing (Noted.handedOverBut (some sent)) ?_ ?_, hrun, hrequests⟩
  · intro sent' hsent'
    obtain rfl : sent = sent' := Except.ok.inj (hsent.symm.trans hsent')
    exact spends_noted_itself plainTransport.timeout sent
  · exact fun answer => Carrier.spends_noted_body (c := acceptingCarrier) _ answer

/-- A deletion under any name is sent, and the target of its request is what the URL of its path comes to. -/
theorem run_delete_bounced {name path target : String}
    (hpath : bouncedAddress.collection ++ "/" ++ Text.segment name = path)
    (htarget : (plainTransport.prepare .plain (Endpoint.delete path)).toOption.map SentRequest.target = some target) :
    ∃ sent w', plainTransport.prepare .plain (Endpoint.delete path) = .ok sent ∧ sent.target = target ∧
      (Lifecycle.delete ⟨plainTransport.service .plain .placeless acceptingCarrier.noted, .api⟩ .endless name
        bouncedAddress).run 0 (idleWorld ⟨[], 0⟩) = some (.ok (), 30000000, w') ∧
      w'.state.remote.requests = [(0, sent)] := by
  have hrequest := bouncedAddress.request_delete name (by decide)
  rw [hpath] at hrequest
  obtain ⟨sent, hsent, hnamed⟩ := exists_prepare_of_target htarget
  have hanswer : acceptingCarrier.Answers plainTransport.timeout sent 0 0 ⟨200, Text.encode "\x7b\x7d"⟩ 30000000 1 :=
    Carrier.answers_alike plainTransport.timeout sent 0 0
  obtain ⟨w', hrun, hrequests⟩ := @run_delete_of_answers _ .plain .placeless plainTransport acceptingCarrier .api
    .endless name bouncedAddress sent _ 0 30000000 (idleWorld ⟨[], 0⟩) 1 (hrequest ▸ hsent) (by decide) hanswer nofun
    (by decide) isReadable_accepted
  exact ⟨sent, w', hsent, hnamed, hrun, hrequests⟩

/-- Without a name the deletion of a bounce addresses all the bounces of its domain, and under two dots what is above
them. -/
theorem nameless_deletion_sent :
    (lastPart? "/v3/mg.example.com/bounces/" = some "" ∧ ∃ sent w',
      plainTransport.prepare .plain (Endpoint.delete "/v3/mg.example.com/bounces/") = .ok sent ∧
      sent.target = "/v3/mg.example.com/bounces/" ∧
      (Lifecycle.delete ⟨plainTransport.service .plain .placeless acceptingCarrier.noted, .api⟩ .endless ""
        bouncedAddress).run 0 (idleWorld ⟨[], 0⟩) = some (.ok (), 30000000, w') ∧
      w'.state.remote.requests = [(0, sent)]) ∧
    lastPart? "/v3/mg.example.com/bounces/.." = some ".." ∧ ∃ sent w',
      plainTransport.prepare .plain (Endpoint.delete "/v3/mg.example.com/bounces/..") = .ok sent ∧
      sent.target = "/v3/mg.example.com/" ∧
      (Lifecycle.delete ⟨plainTransport.service .plain .placeless acceptingCarrier.noted, .api⟩ .endless ".."
        bouncedAddress).run 0 (idleWorld ⟨[], 0⟩) = some (.ok (), 30000000, w') ∧
      w'.state.remote.requests = [(0, sent)] := by
  have hempty : bouncedAddress.collection ++ "/" ++ Text.segment "" = "/v3/mg.example.com/bounces/" := by
    decide +kernel
  have hdots : bouncedAddress.collection ++ "/" ++ Text.segment ".." = "/v3/mg.example.com/bounces/.." := by
    decide +kernel
  refine ⟨⟨?_, run_delete_bounced hempty (by decide +kernel)⟩, ?_, run_delete_bounced hdots (by decide +kernel)⟩
  · rw [← hempty]
    exact lastPart?_segment _ ""
  · rw [← hdots]
    exact lastPart?_segment _ ".."

end MailReconciler
