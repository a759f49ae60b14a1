/-
What is asked of carriers. A carrier is whatever work brings answers; so what a theorem needs of it is said of that
work: that it comes to an end (`Carrier.Ends`), that it raises a count by no more than so much for each request
(`Carrier.Issues`), or what one request comes to (`Carrier.Answers`). Over any carrier the requests that are handed over
can be noted (`Carrier.noted`), which changes nothing else.
-/
import MailReconciler.Http.Carrier
import MailReconciler.Http.Exchange
import MailReconciler.Proofs.Work.Spending

namespace MailReconciler

/-! ## Notes -/

/-- The state of a carrier with a note of each request that it was handed, in order and with its instant. -/
structure Noted (ρ : Type) where
  requests : List (Instant × SentRequest)
  below : ρ

namespace Noted

variable {ρ : Type}

/-- The same notes over another state. -/
def setBelow (below : ρ) (n : Noted ρ) : Noted ρ := { n with below }

@[simp] theorem below_setBelow (r : ρ) (n : Noted ρ) : (n.setBelow r).below = r := rfl

@[simp] theorem requests_setBelow (r : ρ) (n : Noted ρ) : (n.setBelow r).requests = n.requests := rfl

@[simp] theorem setBelow_setBelow (r r' : ρ) (n : Noted ρ) : (n.setBelow r).setBelow r' = n.setBelow r' := rfl

@[simp] theorem setBelow_below (n : Noted ρ) : n.setBelow n.below = n := rfl

end Noted

namespace Carrier

variable {ρ : Type} {c : Carrier ρ} {count : ρ → Nat} {most : Nat} {timeout : Duration} {sent : SentRequest}
  {now t : Instant} {r r' : ρ}

/-- A carrier that notes each request before it carries it. -/
def noted (c : Carrier ρ) : Carrier (Noted ρ) where
  Answer := c.Answer
  status := c.status
  send timeout sent := do
    Work.change fun now n => { n with requests := n.requests ++ [(now, sent)] }
    (c.send timeout sent).onPart Noted.below Noted.setBelow
  body answer := (c.body answer).onPart Noted.below Noted.setBelow

/-- Work over a carrier runs below notes as it does alone. -/
theorem run_below {α : Type} {work : Work ρ α} {a : α} {requests : List (Instant × SentRequest)}
    (h : work.run now r = some (a, t, r')) :
    (work.onPart Noted.below Noted.setBelow).run now ⟨requests, r⟩ = some (a, t, ⟨requests, r'⟩) :=
  Work.run_onPart Noted.below_setBelow Noted.setBelow_setBelow Noted.setBelow_below h

/-- A request is noted at the instant at which it is handed over, and then carried as it is without notes. -/
theorem run_noted_send {outcome : Except HttpError c.Answer} (requests : List (Instant × SentRequest))
    (h : (c.send timeout sent).run now r = some (outcome, t, r')) :
    (c.noted.send timeout sent).run now ⟨requests, r⟩ = some (outcome, t, ⟨requests ++ [(now, sent)], r'⟩) :=
  run_below h

/-! ## Ends -/

/-- Whatever happens to requests and bodies, the wait for them comes to an end: they time out. -/
structure Ends (c : Carrier ρ) : Prop where
  send : ∀ timeout sent now, (c.send timeout sent).Ends (fun _ _ => True) now
  body : ∀ answer now, (c.body answer).Ends (fun _ _ => True) now

theorem Ends.noted (h : c.Ends) : c.noted.Ends where
  send timeout sent now := fun _ => (h.send timeout sent now).onPart
  body answer now := (h.body answer now).onPart

/-! ## Counts -/

/-- For each request that it is handed, a carrier raises a count by no more than so much; bodies do not raise it. Of the
requests that servers receive these are one, and one more for each redirection that is followed. -/
structure Issues (c : Carrier ρ) (count : ρ → Nat) (most : Nat) : Prop where
  send : ∀ timeout sent, (c.send timeout sent).Spends count most
  body : ∀ answer, (c.body answer).Spends count 0

/-- Work below the notes leaves them alone. -/
theorem keeps_requests {α τ : Type} (view : List (Instant × SentRequest) → τ) (work : Work ρ α) :
    (work.onPart Noted.below Noted.setBelow).Keeps fun n => view n.requests := by
  refine Work.keeps_onPart ?_ work
  intro r n
  rw [Noted.requests_setBelow]

/-- A request raises a count of the notes as its note does, whatever the carrier makes of it. -/
theorem spends_noted_send {count : List (Instant × SentRequest) → Nat} (timeout : Duration)
    (h : ∀ now requests, count (requests ++ [(now, sent)]) ≤ count requests + most) :
    (c.noted.send timeout sent).Spends (fun n => count n.requests) most :=
  fun now n => ⟨0, h now n.requests, (keeps_requests count (c.send timeout sent)).spends⟩

theorem spends_noted_body (count : List (Instant × SentRequest) → Nat) (answer : c.Answer) :
    (c.noted.body answer).Spends (fun n => count n.requests) 0 :=
  (keeps_requests count (c.body answer)).spends

/-! ## Answers -/

/-- Alone, a request that is handed over at an instant is answered, and its answer has arrived as a whole at another. -/
def Answers (c : Carrier ρ) (timeout : Duration) (sent : SentRequest) (now : Instant) (r : ρ) (received : Received)
    (t : Instant) (r' : ρ) : Prop :=
  ∃ answer u r₁, (c.send timeout sent).run now r = some (.ok answer, u, r₁) ∧ c.status answer = received.status ∧
    (c.body answer).run u r₁ = some (.ok received.body, t, r')

theorem Answers.noted {received : Received} (h : c.Answers timeout sent now r received t r')
    (requests : List (Instant × SentRequest)) :
    c.noted.Answers timeout sent now ⟨requests, r⟩ received t ⟨requests ++ [(now, sent)], r'⟩ := by
  obtain ⟨answer, u, r₁, hsend, hstatus, hbody⟩ := h
  exact ⟨answer, u, _, run_noted_send requests hsend, hstatus, run_below hbody⟩

/-! ## A carrier with one answer -/

section Alike

variable {hops takes : Nat} {received : Received}

/-- A carrier that brings the same answer to every request, each time after a while and so many requests to servers. Its
state is how many these were. -/
def alike (received : Received) (hops takes : Nat) : Carrier Nat where
  Answer := Unit
  status _ := received.status
  send _ _ := do
    Work.change fun _ k => k + hops
    Work.sleep takes
    return .ok ()
  body _ := .done (.ok received.body)

theorem ends_alike : (alike received hops takes).Ends where
  send _ _ _ := fun _ _ => trivial
  body _ _ := trivial

theorem issues_alike : (alike received hops takes).Issues id hops where
  send _ _ := fun _ _ => ⟨0, Nat.le_refl _, fun _ _ => ⟨0, Nat.le_refl _, trivial⟩⟩
  body _ := trivial

theorem answers_alike (timeout : Duration) (sent : SentRequest) (now : Instant) (k : Nat) :
    (alike received hops takes).Answers timeout sent now k received (now + takes) (k + hops) := by
  refine ⟨(), now + takes, k + hops, ?_, rfl, rfl⟩
  show some (_, max now (now + takes), _) = _
  rw [Nat.max_eq_right (Nat.le_add_right now takes)]
  rfl

end Alike

end Carrier

/-! ## Transports -/

namespace Transport

variable {ρ α : Type} {names : HostNames} {complaints : Json.Complaints} {t : Transport} {c : Carrier ρ}
  {count : ρ → Nat} {most : Nat} {request : Request} {sent : SentRequest} {received : Received} {e : HttpError}
  {now u : Instant} {r r' : ρ}

/-! ### What they spend -/

theorem spends_sendFrom (hsend : (c.send t.timeout sent).Spends count most) (spare retry : Nat) :
    (t.sendFrom c sent spare retry).Spends count ((spare + 1) * most) := by
  induction spare generalizing retry with
  | zero =>
    rw [sendFrom, Nat.zero_add, Nat.one_mul]
    refine Work.spends_bind (n := 0) (fun outcome => ?_) hsend
    cases outcome <;> trivial
  | succ spare ih =>
    rw [sendFrom, Nat.succ_mul, Nat.add_comm _ most]
    refine Work.spends_bind (fun outcome => ?_) hsend
    rcases outcome with e | answer
    · trivial
    · dsimp only
      split
      · exact fun _ _ => ⟨_, Nat.le_refl _, ih (retry + 1)⟩
      · trivial

theorem spends_fetch (hsend : (c.send t.timeout sent).Spends count most)
    (hbody : ∀ answer, (c.body answer).Spends count 0) :
    (t.fetch c sent).Spends count ((t.gatewayRetries.toNat + 1) * most) := by
  refine Work.spends_bind (n := 0) (fun outcome => ?_) (spends_sendFrom hsend _ 1)
  rcases outcome with e | answer
  · trivial
  · exact Work.spends_bind (fun _ => Work.spends_done _ 0) (hbody answer)

/-! ### How they end -/

theorem ends_sendFrom (h : c.Ends) (spare retry : Nat) (now : Instant) :
    (t.sendFrom c sent spare retry).Ends (fun _ _ => True) now := by
  induction spare generalizing retry now with
  | zero =>
    rw [sendFrom]
    refine Work.ends_bind.2 ((h.send t.timeout sent now).mono fun outcome _ _ => ?_)
    cases outcome <;> trivial
  | succ spare ih =>
    rw [sendFrom]
    refine Work.ends_bind.2 ((h.send t.timeout sent now).mono fun outcome _ _ => ?_)
    rcases outcome with e | answer
    · trivial
    · dsimp only
      split
      · exact fun _ => ih (retry + 1) _
      · trivial

theorem ends_fetch (h : c.Ends) (now : Instant) : (t.fetch c sent).Ends (fun _ _ => True) now := by
  refine Work.ends_bind.2 ((ends_sendFrom h _ 1 now).mono fun outcome u _ => ?_)
  rcases outcome with e | answer
  · trivial
  · exact Work.ends_bind.2 ((h.body answer u).mono fun _ _ _ => trivial)

/-! ### What they ask for -/

theorem exists_prepare (h : (t.prepare names request).isOk = true) : ∃ sent, t.prepare names request = .ok sent := by
  cases hprepare : t.prepare names request with
  | error e => rw [hprepare] at h; cases h
  | ok sent => exact ⟨sent, rfl⟩

theorem ask_of_prepare_error (h : t.prepare names request = .error e) :
    t.ask names c request = .done (.error e.failure) := by
  unfold ask
  rw [h]

theorem ask_of_prepare_ok (h : t.prepare names request = .ok sent) :
    t.ask names c request = (t.fetch c sent).bind fun outcome => .done (outcome.mapError HttpError.failure) := by
  unfold ask
  rw [h]
  rfl

/-- A request that cannot be built is not carried. -/
theorem spends_ask (hsend : ∀ sent, t.prepare names request = .ok sent → (c.send t.timeout sent).Spends count most)
    (hbody : ∀ answer, (c.body answer).Spends count 0) :
    (t.ask names c request).Spends count ((t.gatewayRetries.toNat + 1) * most) := by
  cases h : t.prepare names request with
  | error e =>
    rw [ask_of_prepare_error h]
    trivial
  | ok sent =>
    rw [ask_of_prepare_ok h]
    exact Work.spends_bind (fun _ => Work.spends_done _ 0) (spends_fetch (hsend sent h) hbody)

theorem ends_ask (h : c.Ends) (now : Instant) : (t.ask names c request).Ends (fun _ _ => True) now := by
  cases hprepare : t.prepare names request with
  | error e =>
    rw [ask_of_prepare_error hprepare]
    trivial
  | ok sent =>
    rw [ask_of_prepare_ok hprepare]
    exact Work.ends_bind.2 ((ends_fetch h now).mono fun _ _ _ => trivial)

/-- A request whose answer is not a bad gateway's is sent once. -/
theorem run_ask_of_answers (hsent : t.prepare names request = .ok sent)
    (h : c.Answers t.timeout sent now r received u r') (hgood : received.status ≠ badGateway) :
    (t.ask names c request).run now r = some (.ok received, u, r') := by
  obtain ⟨answer, v, r₁, hsend, hstatus, hbody⟩ := h
  have hlast : (t.sendFrom c sent t.gatewayRetries.toNat 1).run now r = some (.ok answer, v, r₁) := by
    cases t.gatewayRetries.toNat with
    | zero =>
      rw [sendFrom]
      exact Work.run_bind_of_some _ hsend
    | succ spare =>
      rw [sendFrom]
      refine (Work.run_bind_of_some _ hsend).trans ?_
      simp only [hstatus, hgood, if_false]
      rfl
  have hfetch : (t.fetch c sent).run now r = some (.ok received, u, r') := by
    refine (Work.run_bind_of_some _ hlast).trans ((Work.run_bind_of_some _ hbody).trans ?_)
    rw [hstatus]
    rfl
  rw [ask_of_prepare_ok hsent, Work.run_bind_of_some _ hfetch]
  rfl

end Transport
end MailReconciler
