/-
Requests at a gateway. Whatever becomes of the requests one after the other, a transport hands them over until one comes
to anything but the answer of a bad gateway, or until it has handed over as many as it may; before the next one it waits
in proportion to how many there were. What it makes of the last outcome is decided by that outcome alone: an error of
the carrier stays one, an answer without success tells its status, and a success holds data or cannot be decoded.
-/
import MailReconciler.Json.Complaint
import MailReconciler.Proofs.Http.Carrying
import Mathlib.Order.Bounds.Basic
import Mathlib.Tactic.Choose

namespace MailReconciler

-- only whether a request can be built matters here, and not what its URL comes to
attribute [local irreducible] Transport.prepare

/-! ## Fates of requests -/

/-- The head of an answer, and what becomes of its body if it is waited for: after some time it has arrived, or an error
has. -/
structure Head where
  status : Nat
  bodyTakes : Nat
  body : Except HttpError (List UInt8)

/-- What becomes of a request: after some time there is the head of an answer, or an error. -/
structure Fate where
  takes : Nat
  outcome : Except HttpError Head

namespace Fate

/-- The status of the answer; an error has none. -/
def status? (f : Fate) : Option Nat := f.outcome.toOption.map Head.status

/-- The answer as a whole, or the error that came in its place or in the place of its body. -/
def received (f : Fate) : Except HttpError Received :=
  f.outcome.bind fun head => head.body.map fun body => ⟨head.status, body⟩

/-- How long it takes until the whole answer is there. -/
def lasts (f : Fate) : Nat := f.takes + (f.outcome.toOption.map Head.bodyTakes).getD 0

end Fate

namespace Carrier

variable {ρ : Type} {c : Carrier ρ} {timeout : Duration} {sent : SentRequest} {now : Instant} {r r' r'' : ρ}
  {fate : Fate}

/-- Alone, a request that is handed over at an instant meets its fate. It leaves one state when the outcome is there,
and another one when the whole answer is. -/
inductive Meets (c : Carrier ρ) (timeout : Duration) (sent : SentRequest) (now : Instant) (r : ρ) :
    Fate → ρ → ρ → Prop
  | fails {takes : Nat} {e : HttpError} {r' : ρ}
    (hsend : (c.send timeout sent).run now r = some (.error e, now + takes, r')) :
    Meets c timeout sent now r ⟨takes, .error e⟩ r' r'
  | answered {takes bodyTakes : Nat} {answer : c.Answer} {body : Except HttpError (List UInt8)} {r' r'' : ρ}
    (hsend : (c.send timeout sent).run now r = some (.ok answer, now + takes, r'))
    (hbody : (c.body answer).run (now + takes) r' = some (body, now + takes + bodyTakes, r'')) :
    Meets c timeout sent now r ⟨takes, .ok ⟨c.status answer, bodyTakes, body⟩⟩ r' r''

/-- Every request meets a fate if the carrier comes to an end. -/
theorem Ends.exists_meets (h : c.Ends) (timeout : Duration) (sent : SentRequest) (now : Instant) (r : ρ) :
    ∃ fate r' r'', c.Meets timeout sent now r fate r' r'' := by
  obtain ⟨outcome, u, r', hsend, -⟩ := (h.send timeout sent now).run r
  obtain ⟨takes, rfl⟩ := Nat.exists_eq_add_of_le (Work.le_of_run hsend)
  cases outcome with
  | error e => exact ⟨_, _, _, .fails hsend⟩
  | ok answer =>
    obtain ⟨body, v, r'', hbody, -⟩ := (h.body answer (now + takes)).run r'
    obtain ⟨bodyTakes, rfl⟩ := Nat.exists_eq_add_of_le (Work.le_of_run hbody)
    exact ⟨_, _, _, .answered hsend hbody⟩

/-- Notes do not change the fate of a request. -/
theorem Meets.noted (h : c.Meets timeout sent now r fate r' r'') (requests : List (Instant × SentRequest)) :
    c.noted.Meets timeout sent now ⟨requests, r⟩ fate ⟨requests ++ [(now, sent)], r'⟩
      ⟨requests ++ [(now, sent)], r''⟩ := by
  cases h with
  | fails hsend => exact .fails (c := c.noted) (run_noted_send requests hsend)
  | answered hsend hbody => exact .answered (c := c.noted) (run_noted_send requests hsend) (run_below hbody)

/-- The body of an answer is waited for without further requests. -/
theorem Meets.requests_eq {n n' n'' : Noted ρ} (h : c.noted.Meets timeout sent now n fate n' n'') :
    n''.requests = n'.requests := by
  cases h with
  | fails _ => rfl
  | answered _ hbody => exact (keeps_requests id _).run hbody

end Carrier

/-! ## Requests one after the other -/

namespace Transport

variable {ρ : Type} {t : Transport} {c : Carrier ρ} {plan : Nat → Fate} {sent : SentRequest} {start : Instant}
  {states : Nat → ρ}

/-- When request `k + 1` is handed over, unless one before it has settled the matter: as soon as request `k` has its
outcome, and after the wait that is due. -/
def begins (t : Transport) (plan : Nat → Fate) (start : Instant) : Nat → Instant
  | 0 => start
  | k + 1 => t.begins plan start k + (plan (k + 1)).takes + min (t.gatewayBackoff.nanos * (k + 1)) maxNanos

/-- Alone, the requests of a transport meet planned fates one after the other, each of them when it is due: that is,
when those before it have come to the answer of a bad gateway. The plan counts from one. -/
def Follows (t : Transport) (c : Carrier ρ) (sent : SentRequest) (plan : Nat → Fate) (start : Instant)
    (states : Nat → ρ) : Prop :=
  ∀ k ≤ t.gatewayRetries.toNat, (∀ j, 1 ≤ j → j ≤ k → (plan j).status? = some badGateway) →
    ∃ r, c.Meets t.timeout sent (t.begins plan start k) (states k) (plan (k + 1)) (states (k + 1)) r

/-- The requests of every run follow a plan if the carrier comes to an end. -/
theorem exists_follows (h : c.Ends) (t : Transport) (sent : SentRequest) (start : Instant) (r : ρ) :
    ∃ plan states, states 0 = r ∧ t.Follows c sent plan start states := by
  choose fate next final hmeets using h.exists_meets t.timeout sent
  -- the instant and the state at which each request is handed over, from those of the request before
  let along : Nat → Instant × ρ := Nat.rec (start, r) fun k (p : Instant × ρ) =>
    (p.1 + (fate p.1 p.2).takes + min (t.gatewayBackoff.nanos * (k + 1)) maxNanos, next p.1 p.2)
  let plan : Nat → Fate := fun k => fate (along (k - 1)).1 (along (k - 1)).2
  have hbegins : ∀ k, t.begins plan start k = (along k).1 := by
    intro k
    induction k with
    | zero => rfl
    | succ k ih =>
      rw [begins, ih]
      rfl
  refine ⟨plan, fun k => (along k).2, rfl, fun k _ _ => ⟨final (along k).1 (along k).2, ?_⟩⟩
  rw [hbegins]
  exact hmeets _ _

theorem Follows.noted (h : t.Follows c sent plan start states) (before : List (Instant × SentRequest)) :
    t.Follows c.noted sent plan start fun k =>
      ⟨before ++ (List.range k).map fun j => (t.begins plan start j, sent), states k⟩ := by
  intro k hk hbad
  obtain ⟨r, hmeets⟩ := h k hk hbad
  have hnoted := hmeets.noted (before ++ (List.range k).map fun j => (t.begins plan start j, sent))
  simp only [List.range_succ, List.map_append, List.map_singleton, ← List.append_assoc]
  exact ⟨_, hnoted⟩

/-- The last one of up to `most` requests, counted from `first`: it is the first that does not come to the answer of a
bad gateway, or there are no more. -/
def Settles (plan : Nat → Fate) (first most k : Nat) : Prop :=
  IsLeast {k | first ≤ k ∧ (k = most ∨ (plan k).status? ≠ some badGateway)} k

theorem settles_first {first most : Nat} (h : first = most ∨ (plan first).status? ≠ some badGateway) :
    Settles plan first most first :=
  ⟨⟨Nat.le_refl _, h⟩, fun _ hk => hk.1⟩

/-- A request that comes to the answer of a bad gateway leaves the matter to the ones behind it. -/
theorem settles_succ_iff {first most k : Nat} (hmost : first ≠ most)
    (hbad : (plan first).status? = some badGateway) : Settles plan (first + 1) most k ↔ Settles plan first most k := by
  have hset : {k | first + 1 ≤ k ∧ (k = most ∨ (plan k).status? ≠ some badGateway)} =
      {k | first ≤ k ∧ (k = most ∨ (plan k).status? ≠ some badGateway)} := by
    ext j
    constructor
    · rintro ⟨hj, hsettled⟩
      exact ⟨by omega, hsettled⟩
    · rintro ⟨hj, hsettled⟩
      refine ⟨Nat.lt_of_le_of_ne hj ?_, hsettled⟩
      rintro rfl
      rcases hsettled with heq | hgood
      · exact hmost heq
      · exact hgood hbad
  unfold Settles
  rw [hset]

theorem exists_settles (plan : Nat → Fate) (spare : Nat) : ∀ first, ∃ k, Settles plan first (first + spare) k := by
  induction spare with
  | zero => exact fun first => ⟨first, settles_first (.inl rfl)⟩
  | succ spare ih =>
    intro first
    by_cases hbad : (plan first).status? = some badGateway
    · obtain ⟨k, hk⟩ := ih (first + 1)
      rw [Nat.add_right_comm] at hk
      exact ⟨k, (settles_succ_iff (by omega) hbad).1 hk⟩
    · exact ⟨first, settles_first (.inr hbad)⟩

/-- The outcome of the last request is the one of the loop. -/
theorem run_sendFrom_last {spare retry : Nat} {now u : Instant} {r r' : ρ} {outcome : Except HttpError c.Answer}
    (hsend : (c.send t.timeout sent).run now r = some (outcome, u, r'))
    (hlast : spare = 0 ∨ ∀ answer, outcome = .ok answer → c.status answer ≠ badGateway) :
    (t.sendFrom c sent spare retry).run now r = some (outcome, u, r') := by
  cases spare with
  | zero =>
    rw [sendFrom]
    refine (Work.run_bind_of_some _ hsend).trans ?_
    cases outcome <;> rfl
  | succ spare =>
    rw [sendFrom]
    refine (Work.run_bind_of_some _ hsend).trans ?_
    cases outcome with
    | error e => rfl
    | ok answer =>
      have hgood := hlast.resolve_left (Nat.succ_ne_zero spare) answer rfl
      simp only [hgood, if_false]
      rfl

/-- A loop whose first request comes to the answer of a bad gateway goes on behind a wait. -/
theorem run_sendFrom_bad {spare retry : Nat} {now u : Instant} {r r' : ρ} {answer : c.Answer}
    (hsend : (c.send t.timeout sent).run now r = some (.ok answer, u, r')) (hbad : c.status answer = badGateway) :
    (t.sendFrom c sent (spare + 1) retry).run now r = (t.sendFrom c sent spare (retry + 1)).run
      (u + min (t.gatewayBackoff.nanos * retry) maxNanos) r' := by
  rw [sendFrom]
  refine (Work.run_bind_of_some _ hsend).trans ?_
  simp only [hbad, if_true]
  show (t.sendFrom c sent spare (retry + 1)).run (max u (u + _)) r' = _
  rw [Nat.max_eq_right (Nat.le_add_right _ _)]
  rfl

/-- The loop comes to the request that settles the matter, and ends with it. -/
theorem Follows.run_sendFrom (h : t.Follows c sent plan start states) {k : Nat} (spare : Nat) :
    ∀ issued, issued + spare = t.gatewayRetries.toNat →
      (∀ j, 1 ≤ j → j ≤ issued → (plan j).status? = some badGateway) →
      Settles plan (issued + 1) (issued + 1 + spare) k →
      ∃ r, c.Meets t.timeout sent (t.begins plan start (k - 1)) (states (k - 1)) (plan k) (states k) r ∧
        (t.sendFrom c sent spare (issued + 1)).run (t.begins plan start issued) (states issued) =
          (c.send t.timeout sent).run (t.begins plan start (k - 1)) (states (k - 1)) := by
  induction spare with
  | zero =>
    intro issued hissued hbad hk
    obtain rfl : issued + 1 = k := (settles_first (.inl rfl)).unique hk
    obtain ⟨r, hmeets⟩ := h issued (by omega) hbad
    refine ⟨r, hmeets, ?_⟩
    rw [Nat.add_sub_cancel]
    generalize plan (issued + 1) = fate at hmeets
    cases hmeets with
    | fails hsend => rw [run_sendFrom_last hsend (.inl rfl), hsend]
    | answered hsend _ => rw [run_sendFrom_last hsend (.inl rfl), hsend]
  | succ spare ih =>
    intro issued hissued hbad hk
    obtain ⟨r, hmeets⟩ := h issued (by omega) hbad
    by_cases hbadNow : (plan (issued + 1)).status? = some badGateway
    · -- the next request is due behind the wait
      have hbadUpTo : ∀ j, 1 ≤ j → j ≤ issued + 1 → (plan j).status? = some badGateway := by
        intro j hj hle
        rcases Nat.le_succ_iff.1 hle with hle | rfl
        · exact hbad j hj hle
        · exact hbadNow
      have hk' : Settles plan (issued + 1 + 1) (issued + 1 + 1 + spare) k := by
        rw [← Nat.add_assoc, Nat.add_right_comm] at hk
        exact (settles_succ_iff (by omega) hbadNow).2 hk
      obtain ⟨r', hlast, hrun⟩ := ih (issued + 1) (by omega) hbadUpTo hk'
      refine ⟨r', hlast, hrun ▸ ?_⟩
      rw [begins]
      generalize plan (issued + 1) = fate at hmeets hbadNow
      cases hmeets with
      | fails _ => cases hbadNow
      | answered hsend _ => exact run_sendFrom_bad hsend (Option.some.inj hbadNow)
    · obtain rfl : issued + 1 = k := (settles_first (.inr hbadNow)).unique hk
      refine ⟨r, hmeets, ?_⟩
      rw [Nat.add_sub_cancel]
      generalize plan (issued + 1) = fate at hmeets hbadNow
      cases hmeets with
      | fails hsend => rw [run_sendFrom_last hsend (.inr nofun), hsend]
      | answered hsend _ =>
        rw [run_sendFrom_last hsend (.inr ?_), hsend]
        intro answer hanswer hbadAnswer
        cases hanswer
        exact hbadNow (congrArg some hbadAnswer)

/-- What the transport receives is the answer to the request that settles the matter. -/
theorem Follows.run_fetch (h : t.Follows c sent plan start states) {k : Nat}
    (hk : Settles plan 1 (1 + t.gatewayRetries.toNat) k) :
    ∃ r, c.Meets t.timeout sent (t.begins plan start (k - 1)) (states (k - 1)) (plan k) (states k) r ∧
      (t.fetch c sent).run start (states 0) =
        some ((plan k).received, t.begins plan start (k - 1) + (plan k).lasts, r) := by
  have hnone : ∀ j, 1 ≤ j → j ≤ 0 → (plan j).status? = some badGateway := by omega
  obtain ⟨r, hmeets, hrun⟩ := h.run_sendFrom _ 0 (Nat.zero_add _) hnone hk
  refine ⟨r, hmeets, ?_⟩
  generalize plan k = fate at hmeets
  cases hmeets with
  | fails hsend => exact Work.run_bind_of_some _ (hrun.trans hsend)
  | answered hsend hbody =>
    refine (Work.run_bind_of_some _ (hrun.trans hsend)).trans ((Work.run_bind_of_some _ hbody).trans ?_)
    rw [Fate.lasts, ← Nat.add_assoc]
    rfl

end Transport

/-! ## Results -/

section Results

variable {α : Type} {complaints : Json.Complaints} {request : Request} {decode : Json.Decoder α}

/-- The value in the body of a successful answer: null if there is nothing in it, else what its text says. -/
def Http.Carries (r : Received) (value : Json) : Prop :=
  if r.status = 204 ∨ r.body.all isBlankByte then value = .null else Json.parseBytes? r.body = some value

/-- What a sender makes of the fate of its last request. -/
def Fate.result (complaints : Json.Complaints) (request : Request) (decode : Json.Decoder α) (fate : Fate) :
    Except ApiFailure α :=
  (fate.received.mapError HttpError.failure).bind fun received =>
    Http.understand complaints request received decode

/-- The kinds of results, each with the fate that it is made of. -/
inductive Fate.Yields (request : Request) (decode : Json.Decoder α) : Fate → Except ApiFailure α → Prop
  | lost {takes : Nat} {e : HttpError} :
    Yields request decode ⟨takes, .error e⟩ (.error (.transport e.detail e.timedOut e.connecting))
  | cutOff {takes status bodyTakes : Nat} {e : HttpError} :
    Yields request decode ⟨takes, .ok ⟨status, bodyTakes, .error e⟩⟩
      (.error (.transport e.detail e.timedOut e.connecting))
  | refused {takes status bodyTakes : Nat} {body : List UInt8} (h : ¬(200 ≤ status ∧ status < 300)) :
    Yields request decode ⟨takes, .ok ⟨status, bodyTakes, .ok body⟩⟩
      (.error (.status request.method request.path status (Http.failureDetail status body)))
  | decoded {takes status bodyTakes : Nat} {body : List UInt8} {value : Json} {a : α}
    (h : 200 ≤ status ∧ status < 300) (hvalue : Http.Carries ⟨status, body⟩ value) (ha : decode value = .ok a) :
    Yields request decode ⟨takes, .ok ⟨status, bodyTakes, .ok body⟩⟩ (.ok a)
  | undecodable {takes status bodyTakes : Nat} {body : List UInt8} {detail : String}
    (h : 200 ≤ status ∧ status < 300)
    (hnone : ∀ value, Http.Carries ⟨status, body⟩ value → ∀ a, decode value ≠ .ok a) :
    Yields request decode ⟨takes, .ok ⟨status, bodyTakes, .ok body⟩⟩ (.error (.decode detail))

theorem Http.isSuccess_iff (status : Nat) : isSuccess status = true ↔ 200 ≤ status ∧ status < 300 := by
  unfold isSuccess
  simp

/-- A bad gateway is no success. -/
theorem Http.ne_badGateway_of_success {status : Nat} (h : 200 ≤ status ∧ status < 300) :
    status ≠ Transport.badGateway := by
  unfold Transport.badGateway
  omega

theorem Http.understand_of_success {r : Received} (h : 200 ≤ r.status ∧ r.status < 300) :
    understand complaints request r decode = decodeAnswer complaints decode r :=
  if_pos ((isSuccess_iff r.status).2 h)

theorem Http.carries_iff (r : Received) (value : Json) : Carries r value ↔
    (if r.status = 204 ∨ r.body.all isBlankByte then some .null else Json.parseBytes? r.body) = some value := by
  unfold Carries
  split
  · rw [Option.some.injEq, eq_comm]
  · rfl

/-- There is data in an answer exactly if its value can be decoded. -/
theorem Http.decodeAnswer_eq_ok_iff {r : Received} {a : α} :
    decodeAnswer complaints decode r = .ok a ↔ ∃ value, Carries r value ∧ decode value = .ok a := by
  simp only [carries_iff]
  unfold decodeAnswer Json.readAs?
  dsimp only
  generalize (if r.status = 204 ∨ r.body.all isBlankByte then some .null else Json.parseBytes? r.body) = value?
  cases value? with
  | none => simp
  | some value => cases h : decode value <;> simp [h, Except.toOption]

theorem Http.decodeAnswer_cases (complaints : Json.Complaints) (decode : Json.Decoder α) (r : Received) :
    (∃ a, decodeAnswer complaints decode r = .ok a) ∨
      ∃ detail, decodeAnswer complaints decode r = .error (.decode detail) := by
  unfold decodeAnswer
  dsimp only
  split
  · exact .inl ⟨_, rfl⟩
  · exact .inr ⟨_, rfl⟩

theorem Fate.yields_answer (takes status bodyTakes : Nat) (body : List UInt8) :
    Fate.Yields request decode ⟨takes, .ok ⟨status, bodyTakes, .ok body⟩⟩
      (Http.understand complaints request ⟨status, body⟩ decode) := by
  by_cases hsuccess : 200 ≤ status ∧ status < 300
  · rw [Http.understand_of_success hsuccess]
    rcases Http.decodeAnswer_cases complaints decode ⟨status, body⟩ with ⟨a, h⟩ | ⟨detail, h⟩
    · obtain ⟨value, hvalue, ha⟩ := Http.decodeAnswer_eq_ok_iff.1 h
      rw [h]
      exact .decoded hsuccess hvalue ha
    · have hnone : ∀ value, Http.Carries ⟨status, body⟩ value → ∀ a, decode value ≠ .ok a := by
        intro value hvalue a ha
        rw [Http.decodeAnswer_eq_ok_iff.2 ⟨value, hvalue, ha⟩] at h
        cases h
      rw [h]
      exact .undecodable hsuccess hnone
  · have hrefused : Http.understand complaints request ⟨status, body⟩ decode =
        .error (.status request.method request.path status (Http.failureDetail status body)) :=
      if_neg fun h => hsuccess ((Http.isSuccess_iff status).1 h)
    rw [hrefused]
    exact .refused hsuccess

theorem Fate.yields_result (complaints : Json.Complaints) (request : Request) (decode : Json.Decoder α) :
    ∀ fate : Fate, fate.Yields request decode (fate.result complaints request decode)
  | ⟨_, .error _⟩ => .lost
  | ⟨_, .ok ⟨_, _, .error _⟩⟩ => .cutOff
  | ⟨takes, .ok ⟨status, bodyTakes, .ok body⟩⟩ => yields_answer takes status bodyTakes body

/-- A success never tells a status, and nothing else is ever decoded. -/
theorem Fate.Yields.apart {fate : Fate} {result : Except ApiFailure α} {status : Nat}
    (h : fate.Yields request decode result) (hstatus : fate.status? = some status) :
    (200 ≤ status ∧ status < 300 → ∀ method path code detail, result ≠ .error (.status method path code detail)) ∧
    (¬(200 ≤ status ∧ status < 300) → (∀ a, result ≠ .ok a) ∧ ∀ detail, result ≠ .error (.decode detail)) := by
  cases h with
  | lost => cases hstatus
  | cutOff => simp
  | refused h =>
    cases hstatus
    exact ⟨fun hsuccess => absurd hsuccess h, fun _ => by simp⟩
  | decoded h _ _ | undecodable h _ =>
    cases hstatus
    exact ⟨fun _ => by simp, fun hfailure => absurd h hfailure⟩

end Results

/-! ## Requests that are sent -/

section Sent

variable {ρ α : Type} {names : HostNames} {t : Transport} {c : Carrier ρ} {request : Request} {sent : SentRequest}
  {plan : Nat → Fate} {start : Instant} {states : Nat → ρ} {k : Nat}

theorem Transport.Follows.run_sendAs (h : t.Follows c sent plan start states)
    (hsent : t.prepare names request = .ok sent) (hk : Settles plan 1 (1 + t.gatewayRetries.toNat) k)
    (complaints : Json.Complaints) (decode : Json.Decoder α) :
    ∃ r, c.Meets t.timeout sent (t.begins plan start (k - 1)) (states (k - 1)) (plan k) (states k) r ∧
      (t.sendAs names complaints c decode request).run start (states 0) =
        some ((plan k).result complaints request decode, t.begins plan start (k - 1) + (plan k).lasts, r) := by
  obtain ⟨r, hmeets, hfetch⟩ := h.run_fetch hk
  have hask : (t.ask names c request).run start (states 0) =
      some ((plan k).received.mapError HttpError.failure, t.begins plan start (k - 1) + (plan k).lasts, r) := by
    rw [Transport.ask_of_prepare_ok hsent]
    exact Work.run_bind_of_some _ hfetch
  exact ⟨r, hmeets, Work.run_bind_of_some _ hask⟩

/-- With notes the result is the same, and each request up to the last one is noted when it is due. -/
theorem Transport.Follows.run_noted_sendAs (h : t.Follows c sent plan start states)
    (hsent : t.prepare names request = .ok sent) (hk : Settles plan 1 (1 + t.gatewayRetries.toNat) k)
    (complaints : Json.Complaints) (decode : Json.Decoder α) (before : List (Instant × SentRequest)) :
    ∃ n, n.requests = before ++ (List.range k).map (fun j => (t.begins plan start j, sent)) ∧
      (t.sendAs names complaints c.noted decode request).run start ⟨before, states 0⟩ =
        some ((plan k).result complaints request decode, t.begins plan start (k - 1) + (plan k).lasts, n) := by
  obtain ⟨n, hmeets, hrun⟩ := (h.noted before).run_sendAs hsent hk complaints decode
  refine ⟨n, hmeets.requests_eq, ?_⟩
  rw [List.range_zero, List.map_nil, List.append_nil] at hrun
  exact hrun

end Sent

/-- A request that cannot be built is lost before it is handed over. Any other is handed over up to and including the
first time that it comes to anything but the answer of a bad gateway, whose body is not waited for, and no more often
than it may be; what becomes of it the last time decides the result. Before it is handed over again there is a wait that
grows by one length each time, up to the longest there is. So it is whatever becomes of the requests, and something does
become of them if the carrier comes to an end. -/
theorem send_settled_by_last_outcome {ρ α : Type} (names : HostNames) (complaints : Json.Complaints) (t : Transport)
    (c : Carrier ρ) (request : Request) (decode : Json.Decoder α) :
    (∀ e, t.prepare names request = .error e →
      t.sendAs names complaints c decode request = .done (.error (.transport e.detail e.timedOut e.connecting))) ∧
    ∀ sent, t.prepare names request = .ok sent → ∀ start : Instant,
      (c.Ends → ∀ r, ∃ plan states, states 0 = r ∧ t.Follows c sent plan start states) ∧
      ∀ (plan : Nat → Fate) (states : Nat → ρ), t.Follows c sent plan start states → ∃ k,
        IsLeast {k | 1 ≤ k ∧ (k = t.gatewayRetries.toNat + 1 ∨ (plan k).status? ≠ some 502)} k ∧
        k - 1 < UInt32.size ∧
        (∃ r, (t.sendAs names complaints c decode request).run start (states 0) =
          some ((plan k).result complaints request decode, t.begins plan start (k - 1) + (plan k).lasts, r)) ∧
        (∀ before, ∃ n, n.requests = before ++ (List.range k).map (fun j => (t.begins plan start j, sent)) ∧
          (t.sendAs names complaints c.noted decode request).run start ⟨before, states 0⟩ =
            some ((plan k).result complaints request decode, t.begins plan start (k - 1) + (plan k).lasts, n)) ∧
        (plan k).Yields request decode ((plan k).result complaints request decode) ∧
        ∀ status, (plan k).status? = some status →
          (200 ≤ status ∧ status < 300 → ∀ method path code detail,
            (plan k).result complaints request decode ≠ .error (.status method path code detail)) ∧
          (¬(200 ≤ status ∧ status < 300) → (∀ a, (plan k).result complaints request decode ≠ .ok a) ∧
            ∀ detail, (plan k).result complaints request decode ≠ .error (.decode detail)) := by
  constructor
  · intro e he
    show (t.ask names c request).bind _ = _
    rw [Transport.ask_of_prepare_error he]
    rfl
  · intro sent hsent start
    refine ⟨fun hends r => Transport.exists_follows hends t sent start r, fun plan states hfollows => ?_⟩
    obtain ⟨k, hk⟩ := Transport.exists_settles plan t.gatewayRetries.toNat 1
    have hmost : k ≤ 1 + t.gatewayRetries.toNat := hk.2 ⟨Nat.le_add_right _ _, .inl rfl⟩
    have hsize := t.gatewayRetries.toNat_lt_size
    have hyields := Fate.yields_result complaints request decode (plan k)
    obtain ⟨r, -, hrun⟩ := hfollows.run_sendAs hsent hk complaints decode
    exact ⟨k, by rwa [Nat.add_comm _ 1], by omega, ⟨r, hrun⟩, hfollows.run_noted_sendAs hsent hk complaints decode,
      hyields, fun status => hyields.apart⟩

/-! ## Planned fates -/

namespace Carrier

variable {plan : Nat → Fate}

/-- A carrier whose requests meet planned fates. Its state is how many there were. -/
def planned (plan : Nat → Fate) : Carrier Nat where
  Answer := Head
  status := Head.status
  send _ _ := do
    let k ← Work.step fun _ k => (k + 1, k + 1)
    Work.sleep (plan k).takes
    return (plan k).outcome
  body head := do
    Work.sleep head.bodyTakes
    return head.body

theorem ends_planned (plan : Nat → Fate) : (planned plan).Ends where
  send _ _ _ := fun _ _ => trivial
  body _ _ := fun _ => trivial

theorem run_planned_send (timeout : Duration) (sent : SentRequest) (now : Instant) (k : Nat) :
    ((planned plan).send timeout sent).run now k =
      some ((plan (k + 1)).outcome, now + (plan (k + 1)).takes, k + 1) := by
  show some (_, max now (now + (plan (k + 1)).takes), _) = _
  rw [Nat.max_eq_right (Nat.le_add_right _ _)]
  rfl

theorem run_planned_body (head : Head) (now : Instant) (k : Nat) :
    ((planned plan).body head).run now k = some (head.body, now + head.bodyTakes, k) := by
  show some (_, max now (now + _), _) = _
  rw [Nat.max_eq_right (Nat.le_add_right _ _)]

theorem meets_planned (timeout : Duration) (sent : SentRequest) (now : Instant) (k : Nat) :
    (planned plan).Meets timeout sent now k (plan (k + 1)) (k + 1) (k + 1) := by
  have hsend : ((planned plan).send timeout sent).run now k = _ := run_planned_send timeout sent now k
  generalize plan (k + 1) = fate at hsend ⊢
  obtain ⟨takes, _ | head⟩ := fate
  · exact .fails hsend
  · exact .answered (c := planned plan) hsend (run_planned_body head _ _)

end Carrier

/-- A plan is followed by the carrier that is made for it. -/
theorem Transport.follows_planned (t : Transport) (sent : SentRequest) (plan : Nat → Fate) (start : Instant) :
    t.Follows (.planned plan) sent plan start id :=
  fun k _ _ => ⟨k + 1, Carrier.meets_planned t.timeout sent _ k⟩

/-- A transport with the settings that stand when nothing else is asked for: a bad gateway is tried twice more. -/
def plainTransport : Transport := { base := "http://127.0.0.1:8080" }

/-- The gateway is bad twice, the second time with a body that is cut off; then there is an answer. -/
def lateAnswer : Nat → Fate
  | 1 => ⟨20000000, .ok ⟨502, 0, .ok []⟩⟩
  | 2 => ⟨30000000, .ok ⟨502, 0, .error { message := "error decoding response body" }⟩⟩
  | _ => ⟨40000000, .ok ⟨200, 5000000, .ok (Text.encode "true")⟩⟩

def readTruth : Request := ⟨"GET", "/v3/routes/abc123", [], none⟩

/-- Such an answer is the result, after the waits of half a second and of one second; and without a base there is nobody
to send the request to. -/
theorem late_answer_settles : (Carrier.planned lateAnswer).Ends ∧
    (∃ sent n, plainTransport.prepare .plain readTruth = .ok sent ∧
      n.requests = [(0, sent), (520000000, sent), (1550000000, sent)] ∧
      (plainTransport.sendAs .plain .placeless (Carrier.planned lateAnswer).noted Json.Decoder.bool readTruth).run 0
        ⟨[], 0⟩ = some (.ok true, 1595000000, n)) ∧
    ∃ e, Transport.prepare .plain { base := "" } readTruth = .error e ∧
      Transport.sendAs .plain .placeless { base := "" } (.planned lateAnswer) Json.Decoder.bool readTruth =
        .done (.error (.transport e.detail e.timedOut e.connecting)) := by
  refine ⟨Carrier.ends_planned _, ?_, ?_⟩
  · have hprepare : (plainTransport.prepare .plain readTruth).isOk = true := by decide +kernel
    obtain ⟨sent, hsent⟩ := Transport.exists_prepare hprepare
    obtain ⟨-, hall⟩ := send_settled_by_last_outcome .plain .placeless plainTransport (.planned lateAnswer) readTruth
      Json.Decoder.bool
    obtain ⟨-, hfollows⟩ := hall sent hsent 0
    obtain ⟨k, hk, -, -, hnoted, -⟩ := hfollows lateAnswer id (plainTransport.follows_planned sent lateAnswer 0)
    have hthree : IsLeast {k | 1 ≤ k ∧ (k = plainTransport.gatewayRetries.toNat + 1 ∨
        (lateAnswer k).status? ≠ some 502)} 3 := by
      refine ⟨⟨by decide, .inl (by decide)⟩, ?_⟩
      rintro j ⟨hj, hsettled⟩
      match j, hsettled with
      | 1, hsettled => simp [lateAnswer, Fate.status?, Except.toOption, plainTransport] at hsettled
      | 2, hsettled => simp [lateAnswer, Fate.status?, Except.toOption, plainTransport] at hsettled
      | j + 3, _ => omega
    obtain rfl := hk.unique hthree
    obtain ⟨n, hn, hrun⟩ := hnoted []
    have hresult : (lateAnswer 3).result .placeless readTruth Json.Decoder.bool = .ok true := by decide +kernel
    have hend : plainTransport.begins lateAnswer 0 (3 - 1) + (lateAnswer 3).lasts = 1595000000 := by decide +kernel
    rw [hresult, hend] at hrun
    exact ⟨sent, n, hsent, hn, hrun⟩
  · have hprepare : (Transport.prepare .plain { base := "" } readTruth).isOk = false := by decide +kernel
    cases hfailed : Transport.prepare .plain { base := "" } readTruth with
    | ok sent => rw [hfailed] at hprepare; cases hprepare
    | error e =>
      obtain ⟨herror, -⟩ := send_settled_by_last_outcome .plain .placeless { base := "" } (.planned lateAnswer)
        readTruth Json.Decoder.bool
      exact ⟨e, rfl, herror e hfailed⟩

end MailReconciler
