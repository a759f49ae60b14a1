/-
Answers to changes. A caller who changes something asks for no value, but its request goes through the same decoder as
any other: so an answer of success is one for the caller only if its body is empty or a JSON text. Any other body fails
the attempt, and the breaker counts it as a failure, although the API has accepted the change. What the failure says is
what readers of JSON say of the body, and whether the change is sent again depends on that text.
-/
import MailReconciler.Http.Endpoint
import MailReconciler.Json.Complaint
import MailReconciler.Proofs.Client.Rejection
import MailReconciler.Proofs.Http.Gateway
import MailReconciler.Proofs.Json.Values

namespace MailReconciler

-- only whether a request can be built matters here, and not what its URL comes to
attribute [local irreducible] Transport.prepare

/-! ## Answers whose data is passed over -/

section Answers

variable {ρ : Type} {names : HostNames} {complaints : Json.Complaints} {t : Transport} {c : Carrier ρ}
  {request : Request} {sent : SentRequest} {r : Received} {now u : Instant} {s s' : ρ}

/-- Whether there is a value in an answer of success. -/
def Http.isReadable (r : Received) : Bool :=
  r.status = 204 || r.body.all isBlankByte || (Json.parseBytes? r.body).isSome

theorem Http.isReadable_iff (r : Received) : isReadable r = true ↔
    r.status = 204 ∨ r.body.all isBlankByte = true ∨ Json.Grammar.IsText (Text.decode r.body) := by
  unfold isReadable
  rw [Bool.or_eq_true, Bool.or_eq_true, decide_eq_true_iff, or_assoc, ← Json.isSome_read?_iff]
  rfl

/-- Any value will do for one who asks for none, but there must be one. -/
theorem Http.decodeAnswer_ignored (complaints : Json.Complaints) (r : Received) :
    decodeAnswer complaints .ignored r =
      if isReadable r then .ok () else .error (.decode (complaints.ofJson .ignored r.body)) := by
  unfold decodeAnswer
  dsimp only
  by_cases hempty : r.status = 204 ∨ r.body.all isBlankByte = true
  · rw [(isReadable_iff r).2 (hempty.imp_right .inl), if_pos hempty]
    rfl
  · obtain ⟨hstatus, hblank⟩ := not_or.1 hempty
    have hreadable : isReadable r = (Json.parseBytes? r.body).isSome := by
      unfold isReadable
      rw [decide_eq_false hstatus, Bool.eq_false_iff.2 hblank]
      rfl
    rw [if_neg hempty, if_neg hempty, hreadable]
    cases Json.parseBytes? r.body <;> rfl

theorem Transport.run_sendUnit_of_answers (hsent : t.prepare names request = .ok sent)
    (h : c.Answers t.timeout sent now s r u s') (hstatus : 200 ≤ r.status ∧ r.status < 300) :
    (t.sendUnit names complaints c request).run now s =
      some (if Http.isReadable r then .ok () else .error (.decode (complaints.ofJson .ignored r.body)), u, s') := by
  have hgood := Http.ne_badGateway_of_success hstatus
  have hunderstand : Http.understand complaints request r .ignored = _ := Http.understand_of_success hstatus
  refine (Work.run_bind_of_some _ (run_ask_of_answers hsent h hgood)).trans ?_
  rw [← Http.decodeAnswer_ignored, ← hunderstand]
  rfl

/-- A call for which any value will do. -/
theorem Transport.perform_eq_sendUnit {call : Call Unit}
    (h : ∀ read : {β : Type} → Json.Decoder β → Except ApiFailure β, call.understand read = read .ignored) :
    (t.service names complaints c).perform call = t.sendUnit names complaints c call.request := by
  show (t.ask names c call.request).bind _ = (t.ask names c call.request).bind _
  simp only [h]

end Answers

/-! ## Accepted changes -/

/-- A request that asks for no value succeeds on an answer of success if and only if the body is empty or a JSON text,
and cannot decode it otherwise. A call that sends such a request through a breaker ends likewise, if its scope does not
end before, and so the breaker counts it as a success or a failure; and a client whose policy does not retry what is
said of the body reports success likewise. -/
theorem change_acknowledged_iff_readable {ρ : Type} (names : HostNames) (complaints : Json.Complaints) (t : Transport)
    (c : Carrier ρ) {request : Request} {sent : SentRequest} (hsent : t.prepare names request = .ok sent) {status : Nat}
    (body : List UInt8) (hstatus : 200 ≤ status ∧ status < 300) {now u : Instant} {r r' : ρ}
    (hanswer : c.Answers t.timeout sent now r ⟨status, body⟩ u r') :
    ∃ accepted : Bool,
      (accepted = true ↔ status = 204 ∨ body.all Http.isBlankByte = true ∨ Json.Grammar.IsText (Text.decode body)) ∧
      (t.sendUnit names complaints c request).run now r =
        some (if accepted then .ok () else .error (.decode (complaints.ofJson .ignored body)), u, r') ∧
      ∀ call : Call Unit, call.request = request →
        (∀ read : {β : Type} → Json.Decoder β → Except ApiFailure β, call.understand read = read .ignored) →
        ∀ (scope : Scope) (w : World ρ), w.state.remote = r → w.state.breaker.mode ≠ .opened →
          (∀ stop, scope.endsAt = some stop → u ≤ max now stop) →
          (∃ w', (throughBreaker scope ((t.service names complaints c).perform call)).run now w =
              some (if accepted then .ok () else .error (.operation (.decode (complaints.ofJson .ignored body))), u,
                w') ∧
            w'.state.breaker = (w.state.breaker.record (w.read u) accepted).1 ∧ w'.state.remote = r') ∧
          ∀ policy : Policy,
            (accepted = false → policy.retries (.operation (.decode (complaints.ofJson .ignored body)) :
              BreakerFailure ApiFailure) = false) →
            ∃ result w', (Client.call ⟨t.service names complaints c, policy⟩ scope call).run now w =
              some (result, u, w') ∧ (result = .ok () ↔ accepted = true) := by
  have hunit : (t.sendUnit names complaints c request).run now r = _ :=
    Transport.run_sendUnit_of_answers hsent hanswer hstatus
  refine ⟨Http.isReadable ⟨status, body⟩, Http.isReadable_iff _, hunit, ?_⟩
  rintro call rfl hcall scope w rfl hmode hscope
  rw [← Transport.perform_eq_sendUnit hcall] at hunit
  obtain ⟨w', hrun, hbreaker, -, hremote⟩ := run_throughBreaker_of_run hunit hscope hmode
  cases hreadable : Http.isReadable ⟨status, body⟩ with
  | true =>
    rw [hreadable] at hrun hbreaker
    exact ⟨⟨w', hrun, hbreaker, hremote⟩, fun policy _ => ⟨_, _, run_call (.succeeds hrun), iff_of_true rfl rfl⟩⟩
  | false =>
    rw [hreadable] at hrun hbreaker
    refine ⟨⟨w', hrun, hbreaker, hremote⟩, fun policy hkept => ?_⟩
    have hfails : ∃ run w', Retry.Makes policy scope call.name
        (fun _ => throughBreaker scope ((t.service names complaints c).perform call)) (Retry.spare policy) 1 now w run u
        w' ∧ run.result ≠ .ok () := by
      -- the attempt may be the last one that is allowed
      cases Retry.spare policy with
      | zero => exact ⟨_, _, .exhausts hrun, nofun⟩
      | succ spare => exact ⟨_, _, .gives hrun (hkept rfl), nofun⟩
    obtain ⟨run, w'', hmakes, hfailed⟩ := hfails
    refine ⟨_, w'', run_call hmakes, iff_of_false (fun hok => hfailed ?_) Bool.false_ne_true⟩
    cases hresult : run.result with
    | error e => rw [hresult] at hok; cases hok
    | ok value => rfl

/-- A carrier to a server that says that it has deleted the route, in so many words. -/
def wordyCarrier : Carrier Nat := .alike ⟨200, Text.encode "OK"⟩ 1 40000000

/-- What is said of a text that does not begin with a value. -/
def valueExpected : Json.Complaints :=
  { Json.Complaints.placeless with ofJson := fun _ _ => "expected value at line 1 column 1" }

/-- A world whose breaker has not been used. -/
def idleWorld {ρ : Type} (remote : ρ) : World ρ :=
  ⟨[], .cycle [], ⟨"mailgun", {}, .closed, .closed, 0, 0, none⟩, .ofRun, remote⟩

def deletion : Call Unit := .deleteRoute "abc123"

theorem exists_prepare_deletion : ∃ sent, plainTransport.prepare .plain deletion.request = .ok sent :=
  Transport.exists_prepare (by decide +kernel)

theorem not_retries_valueExpected : Policy.api.retries
    (.operation (.decode "expected value at line 1 column 1") : BreakerFailure ApiFailure) = false := by
  have htext : (ApiFailure.decode "expected value at line 1 column 1").message.toList = _ :=
    String.toList_append.trans (congrArg₂ (· ++ ·) String.toList_ofList String.toList_ofList)
  refine (Policy.retriesText_eq _ _ rfl).trans ((Policy.marksText_of_toList _ htext).trans ?_)
  rw [Policy.marks, Policy.phrases_api]
  decide

theorem answers_wordyCarrier (sent : SentRequest) :
    wordyCarrier.Answers plainTransport.timeout sent 0 0 ⟨200, Text.encode "OK"⟩ 40000000 1 :=
  Carrier.answers_alike plainTransport.timeout sent 0 0

/-- Such an answer is not the success of a deletion, since it is no JSON text, and the breaker counts a failure. -/
theorem wordy_answer_unread : ∃ w', (plainTransport.prepare .plain deletion.request).isOk = true ∧
    ¬Json.Grammar.IsText (Text.decode (Text.encode "OK")) ∧
    (plainTransport.sendUnit .plain valueExpected wordyCarrier deletion.request).run 0 0 =
      some (.error (.decode "expected value at line 1 column 1"), 40000000, 1) ∧
    (throughBreaker .endless ((plainTransport.service .plain valueExpected wordyCarrier).perform deletion)).run 0
      (idleWorld 0) = some (.error (.operation (.decode "expected value at line 1 column 1")), 40000000, w') ∧
    w'.state.breaker.failures = 1 ∧
    ∃ result w'', (Client.call ⟨plainTransport.service .plain valueExpected wordyCarrier, .api⟩ .endless deletion).run 0
      (idleWorld 0) = some (result, 40000000, w'') ∧ result ≠ .ok () := by
  have hbody : ¬Json.Grammar.IsText (Text.decode (Text.encode "OK")) := by
    rw [← Json.isSome_read?_iff]
    decide +kernel
  have hblank : (Text.encode "OK").all Http.isBlankByte = false := by decide +kernel
  obtain ⟨sent, hsent⟩ := exists_prepare_deletion
  obtain ⟨accepted, haccepted, hrun, hcall⟩ := change_acknowledged_iff_readable .plain valueExpected plainTransport
    wordyCarrier hsent (Text.encode "OK") (by decide : 200 ≤ 200 ∧ 200 < 300) (answers_wordyCarrier sent)
  have hno : accepted = false := by
    refine Bool.eq_false_iff.2 fun h => ?_
    rcases haccepted.1 h with h | h | h
    · cases h
    · rw [hblank] at h
      cases h
    · exact hbody h
  subst hno
  obtain ⟨⟨w', hthrough, hbreaker, -⟩, hclient⟩ :=
    hcall deletion rfl (fun _ => rfl) .endless (idleWorld 0) rfl (by decide) nofun
  obtain ⟨result, w'', hend, hresult⟩ := hclient .api fun _ => not_retries_valueExpected
  refine ⟨w', ?_, hbody, hrun, hthrough, ?_, result, w'', hend, fun h => Bool.false_ne_true (hresult.1 h)⟩
  · rw [hsent]
    rfl
  · rw [hbreaker]
    rfl

/-- The API has accepted a deletion, and yet its call fails and the breaker counts a failure. -/
theorem accepted_deletion_fails : ∃ sent w', plainTransport.prepare .plain deletion.request = .ok sent ∧
    (Client.call ⟨plainTransport.service .plain valueExpected wordyCarrier.noted, .api⟩ .endless deletion).run 0
      (idleWorld ⟨[], 0⟩) =
        some (.error (.refused "delete_route" (.decode "expected value at line 1 column 1")), 40000000, w') ∧
    w'.state.breaker.failures = 1 ∧ w'.state.remote.requests = [(0, sent)] := by
  have hunread : Http.isReadable ⟨200, Text.encode "OK"⟩ = false := by decide +kernel
  obtain ⟨sent, hsent⟩ := exists_prepare_deletion
  have hunit : (plainTransport.sendUnit .plain valueExpected wordyCarrier.noted deletion.request).run 0 ⟨[], 0⟩ =
      some (if Http.isReadable ⟨200, Text.encode "OK"⟩ then .ok () else _, 40000000, _) :=
    Transport.run_sendUnit_of_answers hsent ((answers_wordyCarrier sent).noted []) (by decide)
  rw [hunread, ← Transport.perform_eq_sendUnit (fun _ => rfl)] at hunit
  obtain ⟨w', hrun, hbreaker, -, hremote⟩ :=
    @run_throughBreaker_of_run _ _ _ .endless _ _ _ _ _ (idleWorld (⟨[], 0⟩ : Noted Nat)) hunit nofun (by decide)
  have hmakes : Retry.Makes .api .endless deletion.name (fun _ => throughBreaker .endless
      ((plainTransport.service .plain valueExpected wordyCarrier.noted).perform deletion)) (3 + 1) 1 0
      (idleWorld ⟨[], 0⟩) _ 40000000 _ :=
    .gives hrun not_retries_valueExpected
  refine ⟨sent, _, hsent, run_call hmakes, ?_, ?_⟩
  · show w'.state.breaker.failures = 1
    rw [hbreaker]
    rfl
  · show w'.state.remote.requests = _
    rw [hremote]
    rfl

end MailReconciler
