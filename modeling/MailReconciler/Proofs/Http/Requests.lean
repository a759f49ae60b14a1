/-
Requests of a call. A transport hands a request over again only for a bad gateway and no more often than it may, and the
retries around it make no more attempts than their policy allows: so the two layers multiply, and no more. The product
is reached where the gateway stays bad and the breaker does not open before; else the breaker, which counts attempts and
not requests, ends the call. What servers receive of a request that is handed over is a matter of the carrier: one
request, and one more for each redirection that it follows.
-/
import MailReconciler.Http.Endpoint
import MailReconciler.Proofs.Client.Failing
import MailReconciler.Proofs.Client.Spending
import MailReconciler.Proofs.Http.Gateway
import MailReconciler.Proofs.Retry.Passing

namespace MailReconciler

-- only whether a request can be built matters here, and not what its URL comes to
attribute [local irreducible] Transport.prepare

variable {ρ α : Type}

/-! ## Counts of requests -/

/-- How many requests have been handed over. -/
def Noted.handedOver (n : Noted ρ) : Nat := n.requests.length

/-- Whatever a carrier makes of a request, it is handed one. -/
theorem Carrier.issues_noted (c : Carrier ρ) : c.noted.Issues Noted.handedOver 1 where
  send timeout _ := spends_noted_send timeout fun _ _ => Nat.le_of_eq List.length_append
  body answer := spends_noted_body (c := c) List.length answer

/-! ## Gateways that stay bad -/

namespace Carrier

variable {c : Carrier ρ} {count : ρ → Nat} {steady : ρ → Prop}

/-- While others keep the state steady, every request is answered as by a bad gateway, and all of the answer arrives. -/
structure AnswersBad (c : Carrier ρ) (steady : ρ → Prop) : Prop where
  send : ∀ timeout sent now r, (c.send timeout sent).EndsAmid (fun _ _ => steady)
    (fun outcome _ _ => ∃ answer, outcome = .ok answer ∧ c.status answer = Transport.badGateway) now r
  body : ∀ answer now r, c.status answer = Transport.badGateway → (c.body answer).EndsAmid (fun _ _ => steady)
    (fun outcome _ _ => ∃ body, outcome = .ok body) now r

/-- Moreover every request raises a count by one, and nothing else does. -/
structure StaysBad (c : Carrier ρ) (count : ρ → Nat) (steady : ρ → Prop) : Prop where
  send : ∀ timeout sent now r, (c.send timeout sent).EndsAmid (fun _ => Aloof count steady)
    (fun outcome _ r' => count r' = count r + 1 ∧
      ∃ answer, outcome = .ok answer ∧ c.status answer = Transport.badGateway) now r
  body : ∀ answer now r, c.status answer = Transport.badGateway → (c.body answer).EndsAmid
    (fun _ => Aloof count steady) (fun outcome _ r' => count r' = count r ∧ ∃ body, outcome = .ok body) now r

/-- Work below notes ends amid others as it does without them, and has not touched the notes if others have not. -/
theorem endsAmid_below {β : Type} {post : β → Prop} : ∀ {w : Work ρ β} {now : Instant} {n : Noted ρ},
    w.EndsAmid (fun _ _ => steady) (fun b _ _ => post b) now n.below →
    (w.onPart Noted.below Noted.setBelow).EndsAmid (fun _ => Aloof Noted.handedOver fun n => steady n.below)
      (fun b _ n' => n'.handedOver = n.handedOver ∧ post b) now n
  | .done _, _, _, h => ⟨rfl, h⟩
  | .act change next, now, n, h => by
    intro n₁ h₁
    refine (endsAmid_below (w := next now n₁.below) (h n₁.below h₁.steady)).mono ?_
    rintro b _ n' ⟨hcount, hb⟩
    exact ⟨hcount.trans h₁.seen, hb⟩
  | .wait _ next, _, _, h => endsAmid_below (w := next) h
  | .never, _, _, h => h

/-- Of what is handed over, every request is one. -/
theorem AnswersBad.noted (h : c.AnswersBad steady) :
    c.noted.StaysBad Noted.handedOver fun n => steady n.below where
  send timeout sent now n := by
    intro n₁ h₁
    have hcarried := endsAmid_below (n := ⟨n₁.requests ++ [(now, sent)], n₁.below⟩) (h.send timeout sent now n₁.below)
    refine hcarried.mono ?_
    rintro outcome _ n' ⟨hcount, hbad⟩
    refine ⟨hcount.trans ?_, hbad⟩
    rw [← h₁.seen]
    exact List.length_append
  body answer now n hbad := endsAmid_below (h.body answer now n.below hbad)

end Carrier

namespace Transport

variable {names : HostNames} {complaints : Json.Complaints} {t : Transport} {c : Carrier ρ} {count : ρ → Nat}
  {steady : ρ → Prop} {most : Nat} {call : Call α} {sent : SentRequest} {e : HttpError}

/-- A gateway that stays bad is tried as often as it may be. -/
theorem endsAmid_sendFrom (h : c.StaysBad count steady) (spare retry : Nat) (now : Instant) (r : ρ) :
    (t.sendFrom c sent spare retry).EndsAmid (fun _ => Aloof count steady) (fun outcome _ r' =>
      count r' = count r + (spare + 1) ∧ ∃ answer, outcome = .ok answer ∧ c.status answer = badGateway) now r := by
  induction spare generalizing retry now r with
  | zero =>
    rw [sendFrom]
    refine Work.endsAmid_bind.2 ((h.send t.timeout sent now r).mono ?_)
    rintro _ _ r' ⟨hcount, answer, rfl, hbad⟩
    exact ⟨hcount, answer, rfl, hbad⟩
  | succ spare ih =>
    rw [sendFrom]
    refine Work.endsAmid_bind.2 ((h.send t.timeout sent now r).mono ?_)
    rintro _ u r' ⟨hcount, answer, rfl, hbad⟩
    simp only [hbad, if_true]
    intro r₁ h₁
    refine (ih (retry + 1) _ r₁).mono ?_
    rintro outcome _ r₂ ⟨hcount₂, hanswer⟩
    refine ⟨?_, hanswer⟩
    rw [hcount₂, h₁.seen, hcount]
    omega

theorem endsAmid_fetch (h : c.StaysBad count steady) (now : Instant) (r : ρ) :
    (t.fetch c sent).EndsAmid (fun _ => Aloof count steady) (fun outcome _ r' =>
      count r' = count r + (t.gatewayRetries.toNat + 1) ∧ ∃ body, outcome = .ok ⟨badGateway, body⟩) now r := by
  refine Work.endsAmid_bind.2 ((endsAmid_sendFrom h _ 1 now r).mono ?_)
  rintro _ u r' ⟨hcount, answer, rfl, hbad⟩
  refine Work.endsAmid_bind.2 ((h.body answer u r' hbad).mono ?_)
  rintro _ _ r'' ⟨hbody, body, rfl⟩
  refine ⟨hbody.trans hcount, body, ?_⟩
  rw [← hbad]
  rfl

/-! ## Operations -/

theorem perform_eq (call : Call α) :
    (t.service names complaints c).perform call = (t.ask names c call.request).bind fun outcome =>
      .done (outcome.bind fun received => call.understand (Http.understand complaints call.request received)) :=
  rfl

/-- A call succeeds only if its answer does. -/
theorem understand_of_error {read : {β : Type} → Json.Decoder β → Except ApiFailure β} {failure : ApiFailure}
    (h : ∀ (β : Type) (decode : Json.Decoder β), read decode = .error failure) :
    call.understand read = .error failure := by
  cases call with
  | getCredential name login =>
    show (read CredentialPage.decode).bind _ = _
    rw [h]
    rfl
  | _ => exact h _ _

theorem spends_perform (call : Call α)
    (hsend : ∀ sent, t.prepare names call.request = .ok sent → (c.send t.timeout sent).Spends count most)
    (hbody : ∀ answer, (c.body answer).Spends count 0) :
    ((t.service names complaints c).perform call).Spends count ((t.gatewayRetries.toNat + 1) * most) :=
  Work.spends_bind (fun _ => Work.spends_done _ 0) (spends_ask hsend hbody)

theorem ends_perform (h : c.Ends) (call : Call α) (now : Instant) :
    ((t.service names complaints c).perform call).Ends (fun _ _ => True) now :=
  Work.ends_bind.2 ((ends_ask h now).mono fun _ _ _ => trivial)

/-- A gateway that stays bad fails every operation with an error that every policy retries. -/
theorem failsEach_perform (policy : Policy) (h : c.StaysBad count steady)
    (hsent : t.prepare names call.request = .ok sent) :
    FailsEach policy count steady (fun _ _ seen => seen + (t.gatewayRetries.toNat + 1))
      fun _ => (t.service names complaints c).perform call := by
  intro _ now r
  rw [perform_eq, ask_of_prepare_ok hsent]
  refine Work.endsAmid_bind.2 (Work.endsAmid_bind.2 ((endsAmid_fetch h now r).mono ?_))
  rintro _ _ r' ⟨hcount, body, rfl⟩
  let failure : ApiFailure :=
    .status call.request.method call.request.path badGateway (Http.failureDetail badGateway body)
  have hpassing : failure.Passing := .status _ _ _ (by decide)
  have hfailure : call.understand (Http.understand complaints call.request ⟨badGateway, body⟩) = .error failure :=
    understand_of_error fun _ _ => rfl
  exact ⟨failure, hfailure, policy.retriesText_of_passing hpassing, hcount⟩

end Transport

/-! ## Calls -/

theorem afterErrors_add (most : Nat) (errors : List ApiFailure) (attempt seen : Nat) :
    afterErrors (fun _ _ seen => seen + most) attempt errors seen = seen + errors.length * most := by
  induction errors generalizing attempt seen with
  | nil => rw [List.length_nil, Nat.zero_mul]; rfl
  | cons e errors ih =>
    rw [afterErrors, ih, List.length_cons, Nat.succ_mul]
    omega

section Calls

variable {names : HostNames} {complaints : Json.Complaints} {t : Transport} {c : Carrier ρ} {count : ρ → Nat}
  {steady : ρ → Prop} {most : Nat} {policy : Policy} {call : Call α} {scope : Scope} {start : Instant} {w : World ρ}
  {sent : SentRequest}

theorem spends_call_of_issues (hpos : 0 < policy.maxAttempts.toNat) (h : c.Issues count most) :
    (Client.call ⟨t.service names complaints c, policy⟩ scope call).Spends (fun w => count w.state.remote)
      ((t.gatewayRetries.toNat + 1) * policy.maxAttempts.toNat * most) := by
  have hperform : ((t.service names complaints c).perform call).Spends count _ :=
    Transport.spends_perform call (fun sent _ => h.send t.timeout sent) h.body
  rw [Nat.mul_comm _ policy.maxAttempts.toNat, Nat.mul_assoc]
  exact spends_call hpos hperform

theorem spends_call_of_unbuilt (hpos : 0 < policy.maxAttempts.toNat) (count : ρ → Nat)
    (h : (t.prepare names call.request).isOk = false) :
    (Client.call ⟨t.service names complaints c, policy⟩ scope call).Spends (fun w => count w.state.remote) 0 := by
  cases hprepare : t.prepare names call.request with
  | ok sent => rw [hprepare] at h; cases h
  | error e =>
    have hnone : ((t.service names complaints c).perform call).Spends count 0 := by
      rw [Transport.perform_eq, Transport.ask_of_prepare_error hprepare]
      trivial
    exact spends_call hpos hnone

/-- A breaker that bears some failures bears as many attempts of a call whose gateway stays bad. -/
theorem endsAmid_call_of_staysBad (hpos : 0 < policy.maxAttempts.toNat) (h : c.StaysBad count steady)
    (hsent : t.prepare names call.request = .ok sent) (hscope : scope.endsAt = none) {left : Nat}
    (hbears : w.state.breaker.Bears (left + 1))
    (hrejection : policy.retries (.rejected w.state.breaker.name : BreakerFailure ApiFailure) = false) :
    (Client.call ⟨t.service names complaints c, policy⟩ scope call).EndsAmid (Beside count steady)
      (fun _ _ w' => count w'.state.remote = count w.state.remote +
        (t.gatewayRetries.toNat + 1) * min policy.maxAttempts.toNat (left + 1)) start w := by
  have hop : FailsEach policy count steady _ fun _ => (t.service names complaints c).perform call :=
    Transport.failsEach_perform policy h hsent
  refine Work.endsAmid_bind.2 ((worn_callFrom hscope hop (Retry.spare policy) 1 left start w hrejection hbears).mono ?_)
  rintro run _ w' ⟨errors, hworn⟩
  have hlength : errors.length = min policy.maxAttempts.toNat (left + 1) := by
    rw [hworn.length, Retry.spare_add_one hpos]
  show count w'.state.remote = _
  rw [hworn.seen, afterErrors_add, hlength, Nat.mul_comm]

end Calls

/-- However far a call gets and whatever its scope, its breaker, the carrier and others do, it hands over at most as many
requests as the product of the attempts of both layers; and what a carrier makes of each of these, such as the requests
that servers receive, it makes at most as often. A call over a carrier that comes to an end comes to an end, so this
many at most have been handed over by then if others hand over none. None is where the request cannot be built. The
product with the attempts that the breaker bears is reached if each request is answered as by a bad gateway, the scope
does not end, the breaker is closed without failures and left to the call, its clock does not run on by more than the
quiet time before the next attempt, and its rejection is not worth another attempt. -/
theorem gateway_retries_multiply (names : HostNames) (complaints : Json.Complaints) (t : Transport) (c : Carrier ρ)
    (policy : Policy) (hpos : 0 < policy.maxAttempts.toNat) (call : Call α) (scope : Scope) (start : Instant) :
    (Client.call ⟨t.service names complaints c.noted, policy⟩ scope call).Spends
      (fun w => w.state.remote.handedOver) ((t.gatewayRetries.toNat + 1) * policy.maxAttempts.toNat) ∧
    (∀ (count : ρ → Nat) (most : Nat), c.Issues count most →
      (Client.call ⟨t.service names complaints c, policy⟩ scope call).Spends (fun w => count w.state.remote)
        ((t.gatewayRetries.toNat + 1) * policy.maxAttempts.toNat * most)) ∧
    (c.Ends → ∀ w, (Client.call ⟨t.service names complaints c.noted, policy⟩ scope call).EndsAmid
      (fun _ v v' => v'.state.remote.handedOver = v.state.remote.handedOver)
      (fun _ _ w' => w'.state.remote.handedOver ≤
        w.state.remote.handedOver + (t.gatewayRetries.toNat + 1) * policy.maxAttempts.toNat) start w) ∧
    ((t.prepare names call.request).isOk = false →
      (Client.call ⟨t.service names complaints c.noted, policy⟩ scope call).Spends
        (fun w => w.state.remote.handedOver) 0) ∧
    ((t.prepare names call.request).isOk = true → scope.endsAt = none →
      ∀ (steady : ρ → Prop), c.AnswersBad steady → ∀ w : World (Noted ρ),
        w.state.breaker.mode = .closed → w.state.breaker.failures = 0 →
        0 < w.state.breaker.settings.failureThreshold.toNat →
        policy.retries (.rejected w.state.breaker.name : BreakerFailure ApiFailure) = false →
        (Client.call ⟨t.service names complaints c.noted, policy⟩ scope call).EndsAmid
          (Beside Noted.handedOver fun n => steady n.below)
          (fun _ _ w' => w'.state.remote.handedOver = w.state.remote.handedOver + (t.gatewayRetries.toNat + 1) *
            min policy.maxAttempts.toNat w.state.breaker.settings.failureThreshold.toNat) start w) := by
  have hspends : (Client.call ⟨t.service names complaints c.noted, policy⟩ scope call).Spends
      (fun w => w.state.remote.handedOver) ((t.gatewayRetries.toNat + 1) * policy.maxAttempts.toNat) := by
    have h : (Client.call ⟨t.service names complaints c.noted, policy⟩ scope call).Spends
        (fun w => w.state.remote.handedOver) _ := spends_call_of_issues hpos c.issues_noted
    rwa [Nat.mul_one] at h
  refine ⟨hspends, fun count most h => spends_call_of_issues hpos h, ?_, spends_call_of_unbuilt hpos _, ?_⟩
  · exact fun h w => hspends.endsAmid (fun _ _ _ h => h) (ends_call (Transport.ends_perform h.noted call) start)
  · intro hprepare hscope steady hbad w hmode hfailures hthreshold hrejection
    obtain ⟨sent, hsent⟩ := Transport.exists_prepare hprepare
    obtain ⟨left, hleft⟩ := Nat.exists_eq_succ_of_ne_zero (Nat.ne_of_gt hthreshold)
    have hbears : w.state.breaker.Bears (left + 1) := .closed hmode (by omega)
    rw [hleft]
    exact endsAmid_call_of_staysBad hpos hbad.noted hsent hscope hbears hrejection

/-- A transport that tries a bad gateway once more. -/
def onceMore : Transport := { base := "http://127.0.0.1:8080", gatewayRetries := 1 }

def twoAttempts : Policy := { Policy.api with maxAttempts := 2 }

/-- A carrier that comes to a bad gateway each time, behind a redirection. -/
def wornGateway : Carrier Nat := .alike ⟨Transport.badGateway, []⟩ 2 30000000

theorem answersBad_wornGateway : wornGateway.AnswersBad fun _ => True where
  send _ _ _ _ := fun _ _ _ _ => ⟨(), rfl, rfl⟩
  body _ _ _ _ := ⟨[], rfl⟩

/-- A world whose breaker bears ten failures, and where nothing has been handed over. -/
def untouchedWorld : World (Noted Nat) :=
  ⟨[], .cycle [], ⟨"mailgun", { failureThreshold := 10 }, .closed, .closed, 0, 0, none⟩, .ofRun, ⟨[], 0⟩⟩

/-- Others can do their part whatever the call has come to. -/
theorem exists_beside (now : Instant) (w : World (Noted Nat)) :
    ∃ w', Beside Noted.handedOver (fun _ => True) now w w' :=
  ⟨{ w with state := { w.state with clock := .byHand 0 } }, rfl, ⟨rfl, trivial⟩, fun _ _ _ => Nat.zero_le _⟩

/-- Two attempts with one more request each hand over four requests of a call, which come to eight at servers if each is
redirected once; and none of them without a base. -/
theorem bad_gateway_asked_four_times :
    (∀ now w, ∃ w', Beside Noted.handedOver (fun _ : Noted Nat => True) now w w') ∧
    (Client.call ⟨onceMore.service .plain .placeless wornGateway.noted, twoAttempts⟩ .endless
      (.deleteRoute "abc123")).EndsAmid (Beside Noted.handedOver fun _ => True)
      (fun _ _ w' => w'.state.remote.handedOver = 4) 0 untouchedWorld ∧
    (Client.call ⟨onceMore.service .plain .placeless wornGateway, twoAttempts⟩ .endless (.deleteRoute "abc123")).Spends
      (fun w => w.state.remote) 8 ∧
    (Client.call ⟨onceMore.service .plain .placeless wornGateway.noted, twoAttempts⟩ .endless
      (.deleteRoute "abc123")).EndsAmid (fun _ v v' => v'.state.remote.handedOver = v.state.remote.handedOver)
      (fun _ _ w' => w'.state.remote.handedOver ≤ 4) 0 untouchedWorld ∧
    (Client.call ⟨Transport.service .plain .placeless { base := "" } wornGateway.noted, twoAttempts⟩ .endless
      (.deleteRoute "abc123")).Spends (fun w => w.state.remote.handedOver) 0 := by
  have hpos : 0 < twoAttempts.maxAttempts.toNat := by decide
  have hprepare : (onceMore.prepare .plain (Call.deleteRoute "abc123").request).isOk = true := by decide +kernel
  have hnowhere : (Transport.prepare .plain { base := "" } (Call.deleteRoute "abc123").request).isOk = false := by
    decide +kernel
  have hrejection : twoAttempts.retries (.rejected "mailgun" : BreakerFailure ApiFailure) = false := by decide +kernel
  have hthreshold : 0 < untouchedWorld.state.breaker.settings.failureThreshold.toNat := by decide
  obtain ⟨-, hissues, hends, -, hexact⟩ :=
    gateway_retries_multiply .plain .placeless onceMore wornGateway twoAttempts hpos (.deleteRoute "abc123") .endless 0
  obtain ⟨-, -, -, hnone, -⟩ := gateway_retries_multiply .plain .placeless { base := "" } wornGateway twoAttempts hpos
    (.deleteRoute "abc123") .endless 0
  exact ⟨exists_beside,
    hexact hprepare rfl _ answersBad_wornGateway untouchedWorld rfl rfl hthreshold hrejection,
    hissues id 2 Carrier.issues_alike, hends Carrier.ends_alike untouchedWorld, hnone hnowhere⟩

end MailReconciler
