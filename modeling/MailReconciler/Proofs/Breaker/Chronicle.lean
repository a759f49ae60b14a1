/-
The samples of calls through one breaker, side by side. Whatever the order in which calls of a crowd go on, each step
adds to the samples what the breaker says at it, or the one rejection of a call that ends by it (`Adds`). So the samples
tell the changes of the breaker's state from its making on (`Tells`), and the rejections among them are the calls that
were rejected.
-/
import MailReconciler.Proofs.Breaker.Crowd
import MailReconciler.Proofs.Breaker.Invariant
import MailReconciler.Proofs.Breaker.Log

namespace MailReconciler

/-! ## Samples of a world -/

namespace World

variable {ρ : Type}

theorem allow_samples (now : Instant) (w : World ρ) :
    (allow now w).2.samples = w.samples ++ (w.state.breaker.allow (w.read now)).2.2 := rfl

theorem record_samples (succeeded : Bool) (now : Instant) (w : World ρ) :
    (record succeeded now w).samples = w.samples ++ (w.state.breaker.record (w.read now) succeeded).2 := rfl

theorem reset_samples (w : World ρ) : w.reset.samples = w.samples ++ w.state.breaker.reset.2 := rfl

/-- What the chronicle shows of a world. -/
def shown (w : World ρ) : List Sample × Breaker := (w.samples, w.state.breaker)

end World

namespace Crowd

open Recording

variable {ρ ε α : Type} {c c' : Crowd ρ ε α} {change : Instant → World ρ → World ρ}
  {next : Instant → World ρ → Work (World ρ) (Except (BreakerFailure ε) α)}

/-! ## Steps that lose no result -/

/-- A call that the breaker has rejected. -/
def turnedAway : Work (World ρ) (Except (BreakerFailure ε) α) → Bool
  | .done (.error failure) => failure.isRejection
  | _ => false

def rejections (c : Crowd ρ ε α) : Nat := c.calls.countP turnedAway

/-- One step by which no result is lost: a call is given up only before it has ended. A call whose scope ends before its
turn at the breaker ends without it. -/
inductive Goes (c : Crowd ρ ε α) : Crowd ρ ε α → Prop
  | steps {c' : Crowd ρ ε α} : Step c c' →
      (∀ (i : Nat) r, c.calls[i]? = some (.done r) → c'.calls[i]? = some (.done r)) → Goes c c'
  | interrupts {i : Nat} {change : Instant → World ρ → World ρ}
      {next : Instant → World ρ → Work (World ρ) (Except (BreakerFailure ε) α)} (name : String)
      (reason : EndReason) : c.calls[i]? = some (.act change next) →
      Goes c { c with calls := c.calls.set i (.done (.error (.interrupted name reason))) }

theorem goes_joins (scope : Scope) (op : Work ρ (Except ε α)) :
    Goes c { c with calls := c.calls ++ [throughBreaker scope op] } := by
  refine .steps (.joins scope op) fun i r hi => ?_
  exact (List.getElem?_append_left (List.getElem?_eq_some_iff.1 hi).1).trans hi

theorem goes_acts {i : Nat} (hc : c.calls[i]? = some (.act change next)) :
    Goes c { c with calls := c.calls.set i (next c.now c.world), world := change c.now c.world } := by
  refine .steps (.acts hc) fun j r hj => ?_
  have hne : i ≠ j := by
    rintro rfl
    rw [hc] at hj
    cases hj
  exact (List.getElem?_set_ne hne).trans hj

/-! ## What is left of a call -/

/-- What is left of a call, as far as it may still be sampled. -/
inductive Speaks : Work (World ρ) (Except (BreakerFailure ε) α) → Prop
  | begins (scope : Scope) (op : Work ρ (Except ε α)) : Speaks (throughBreaker scope op)
  | asks (name : String) (scope : Scope) (op : Work ρ (Except ε α)) : Speaks (askBreaker name scope op)
  | works (name : String) {w : Work (World ρ) (Except EndReason (Except ε α))} :
      w.Keeps World.shown → Speaks (w.bind (concludeCall name))
  | ends (r : Except (BreakerFailure ε) α) : Speaks (.done r)
  | gone : Speaks .never

theorem insideBreaker_keeps_shown (scope : Scope) (op : Work ρ (Except ε α)) :
    (insideBreaker scope op).Keeps World.shown := by
  refine Work.keeps_within scope _ (Work.keeps_onPart ?_ op)
  intro remote w
  rfl

/-- A call that was let through is not rejected any more. -/
theorem turnedAway_bind_concludeCall (name : String) (w : Work (World ρ) (Except EndReason (Except ε α))) :
    turnedAway (w.bind (concludeCall name)) = false := by
  cases w with
  | done r => rcases r with reason | e | value <;> rfl
  | act _ _ | wait _ _ | never => rfl

/-- A change that a call makes: it is not sampled, it asks the breaker, or it records an outcome. -/
inductive Changes (change : Instant → World ρ → World ρ)
    (next : Instant → World ρ → Work (World ρ) (Except (BreakerFailure ε) α)) : Prop
  | leaves : (∀ now w, (change now w).shown = w.shown) →
      (∀ now w, Speaks (next now w) ∧ turnedAway (next now w) = false) → Changes change next
  | asks : (∀ now w, change now w = (World.allow now w).2) →
      (∀ now w, Speaks (next now w) ∧ turnedAway (next now w) = !(World.allow now w).1) → Changes change next
  | records (succeeded : Bool) : change = World.record succeeded →
      (∀ now w, Speaks (next now w) ∧ turnedAway (next now w) = false) → Changes change next

theorem Speaks.changes (h : Speaks (.act change next)) : Changes change next := by
  generalize hw : Work.act change next = w at h
  cases h with
  | begins scope op =>
    rw [throughBreaker_eq] at hw
    cases hw
    exact .leaves (fun _ _ => rfl) fun _ w => ⟨.asks w.state.breaker.name scope op, rfl⟩
  | asks name scope op =>
    unfold askBreaker at hw
    cases hw
    refine .asks (fun _ _ => rfl) fun now w => ?_
    cases ha : (World.allow now w).1 with
    | true => exact ⟨.works name (insideBreaker_keeps_shown scope op), turnedAway_bind_concludeCall name _⟩
    | false => exact ⟨.ends _, rfl⟩
  | @works name v hk =>
    cases v with
    | done r =>
      rcases r with reason | e | value
      · cases hw
      · cases hw; exact .records false rfl fun _ _ => ⟨.ends _, rfl⟩
      · cases hw; exact .records true rfl fun _ _ => ⟨.ends _, rfl⟩
    | act change' next' =>
      cases hw
      exact .leaves hk.1 fun now w => ⟨.works name (hk.2 now w), turnedAway_bind_concludeCall name _⟩
    | wait wake next' => cases hw
    | never => cases hw
  | ends r => cases hw
  | gone => cases hw

theorem Speaks.wait {wake : Instant} {next : Work (World ρ) (Except (BreakerFailure ε) α)}
    (h : Speaks (.wait wake next)) : Speaks next ∧ turnedAway next = false := by
  generalize hw : Work.wait wake next = w at h
  cases h with
  | @works name v hk =>
    cases v with
    | wait wake' next' => cases hw; exact ⟨.works name hk, turnedAway_bind_concludeCall name _⟩
    | done r => rcases r with _ | _ | _ <;> cases hw
    | act _ _ => cases hw
    | never => cases hw
  | begins scope op => rw [throughBreaker_eq] at hw; cases hw
  | asks name scope op => unfold askBreaker at hw; cases hw
  | ends r => cases hw
  | gone => cases hw

/-! ## One step -/

/-- What a step adds to the samples: what the breaker says when it is called, the rejection of one call more, or what
the breaker says when it is reset. -/
inductive Adds (c c' : Crowd ρ ε α) : List Sample → Prop
  | utters {new : List Sample} : Breaker.Utters Breaker.callEdges c.world.state.breaker new c'.world.state.breaker →
      c'.rejections = c.rejections → Adds c c' new
  | rejects : c'.world.state.breaker = c.world.state.breaker → c'.rejections = c.rejections + 1 →
      Adds c c' [rejectionSample c.world.state.breaker.name]
  | resets {new : List Sample} : c' = { c with world := c.world.reset } →
      Breaker.Utters Breaker.resetEdges c.world.state.breaker new c'.world.state.breaker → Adds c c' new

/-- A call that was not rejected counts as what it becomes. -/
theorem rejections_set {i : Nat} {work : Work (World ρ) (Except (BreakerFailure ε) α)} (hi : c.calls[i]? = some work)
    (hw : turnedAway work = false) (left : Work (World ρ) (Except (BreakerFailure ε) α)) (world : World ρ) :
    ({ c with calls := c.calls.set i left, world := world } : Crowd ρ ε α).rejections =
      c.rejections + (turnedAway left).toNat := by
  obtain ⟨hlt, rfl⟩ := List.getElem?_eq_some_iff.1 hi
  unfold rejections
  rw [List.countP_set hlt, hw]
  cases turnedAway left <;> rfl

theorem forall_mem_set {calls : List (Work (World ρ) (Except (BreakerFailure ε) α))} {i : Nat}
    {left : Work (World ρ) (Except (BreakerFailure ε) α)} (h : ∀ work ∈ calls, Speaks work) (hl : Speaks left) :
    ∀ work ∈ calls.set i left, Speaks work := by
  intro work hin
  rcases List.mem_or_eq_of_mem_set hin with hin | rfl
  · exact h work hin
  · exact hl

theorem exists_adds_nil (hw : c'.world.shown = c.world.shown) (hr : c'.rejections = c.rejections) :
    ∃ new, c'.world.samples = c.world.samples ++ new ∧ Adds c c' new := by
  obtain ⟨hsamples, hbreaker⟩ := Prod.mk.inj hw
  refine ⟨[], hsamples.trans (List.append_nil _).symm, .utters ?_ hr⟩
  rw [hbreaker]
  exact Breaker.utters_refl _ _

theorem exists_adds_act {i : Nat} (hc : c.calls[i]? = some (.act change next)) (h : Changes change next) :
    Speaks (next c.now c.world) ∧ ∃ new, (change c.now c.world).samples = c.world.samples ++ new ∧
      Adds c { c with calls := c.calls.set i (next c.now c.world), world := change c.now c.world } new := by
  have hcount := rejections_set hc rfl (next c.now c.world) (change c.now c.world)
  cases h with
  | leaves hk hn =>
    obtain ⟨hspeaks, haway⟩ := hn c.now c.world
    rw [haway] at hcount
    exact ⟨hspeaks, exists_adds_nil (hk _ _) hcount⟩
  | asks hk hn =>
    obtain ⟨hspeaks, haway⟩ := hn c.now c.world
    rw [haway] at hcount
    refine ⟨hspeaks, _, (congrArg _ (hk _ _)).trans (World.allow_samples _ _), ?_⟩
    cases ha : (World.allow c.now c.world).1 with
    | true =>
      rw [ha] at hcount
      refine .utters ?_ hcount
      show Breaker.Utters _ _ _ (change c.now c.world).state.breaker
      rw [hk, World.allow_breaker]
      exact Breaker.utters_allow ha
    | false =>
      rw [ha] at hcount
      have hb : c.world.state.breaker.allow (c.world.read c.now) = _ := Breaker.allow_of_rejected ha
      rw [hb]
      refine .rejects ?_ hcount
      show (change c.now c.world).state.breaker = _
      rw [hk, World.allow_breaker, hb]
  | records succeeded hk hn =>
    obtain ⟨hspeaks, haway⟩ := hn c.now c.world
    rw [haway] at hcount
    subst hk
    exact ⟨hspeaks, _, World.record_samples .., .utters (Breaker.utters_record ..) hcount⟩

theorem Goes.exists_adds (h : Goes c c') (hc : ∀ work ∈ c.calls, Speaks work) :
    (∀ work ∈ c'.calls, Speaks work) ∧ ∃ new, c'.world.samples = c.world.samples ++ new ∧ Adds c c' new := by
  cases h with
  | interrupts name reason hi =>
    exact ⟨forall_mem_set hc (.ends _), exists_adds_nil rfl (rejections_set hi rfl _ c.world)⟩
  | steps hs hstay =>
    cases hs with
    | joins scope op =>
      refine ⟨fun work hin => ?_, exists_adds_nil rfl ?_⟩
      · rcases List.mem_append.1 hin with hin | hin
        · exact hc work hin
        · obtain rfl := List.mem_singleton.1 hin
          exact .begins scope op
      · show (c.calls ++ [throughBreaker scope op]).countP turnedAway = _
        rw [List.countP_append]
        rfl
    | @acts i change next hi =>
      obtain ⟨hspeaks, hadds⟩ := exists_adds_act hi (hc _ (List.mem_of_getElem? hi)).changes
      exact ⟨forall_mem_set hc hspeaks, hadds⟩
    | @wakes i wake next hi hw =>
      obtain ⟨hspeaks, haway⟩ := (hc _ (List.mem_of_getElem? hi)).wait
      have hcount := rejections_set hi rfl next c.world
      rw [haway] at hcount
      exact ⟨forall_mem_set hc hspeaks, exists_adds_nil rfl hcount⟩
    | @drops i hi =>
      -- a call that is given up has no result yet
      have haway : turnedAway c.calls[i] = false := by
        generalize hwork : c.calls[i] = work
        have hget : c.calls[i]? = some work := by rw [List.getElem?_eq_getElem hi, hwork]
        cases work with
        | done r =>
          have hstays := hstay i r hget
          rw [List.getElem?_set_self hi] at hstays
          cases hstays
        | act _ _ | wait _ _ | never => rfl
      have hcount := rejections_set (List.getElem?_eq_getElem hi) haway .never c.world
      exact ⟨forall_mem_set hc .gone, exists_adds_nil rfl hcount⟩
    | passes hle => exact ⟨hc, exists_adds_nil rfl rfl⟩
    | sets clock => exact ⟨hc, exists_adds_nil rfl rfl⟩
    | resets => exact ⟨hc, _, World.reset_samples _, .resets rfl (Breaker.utters_reset _)⟩

/-! ## Whole runs -/

/-- A crowd whose samples tell its breaker, from the making of the breaker on. -/
structure Told (name : String) (c : Crowd ρ ε α) : Prop where
  speaks : ∀ work ∈ c.calls, Speaks work
  name_eq : c.world.state.breaker.name = name
  published : c.world.state.breaker.published = c.world.state.breaker.mode
  tells : ∃ edges, Tells name c.world.samples edges c.world.state.breaker.mode
  rejected : (samplesOf c.world.samples .counter Family.rejections).length = c.rejections

variable {name : String} {new : List Sample}

/-- A crowd whose breaker says something of its state, and in which no call is rejected. -/
theorem Told.utters {along : List Edge} (h : Told name c) (hc : ∀ work ∈ c'.calls, Speaks work)
    (hsamples : c'.world.samples = c.world.samples ++ new)
    (hs : Breaker.Utters along c.world.state.breaker new c'.world.state.breaker)
    (hsub : ∀ e ∈ along, e ∈ Breaker.callEdges ∨ e = (.opened, .closed)) (hr : c'.rejections = c.rejections) :
    Told name c' := by
  obtain ⟨edges, htells⟩ := h.tells
  obtain rfl := h.name_eq
  refine ⟨hc, hs.name_eq, hs.published_eq h.published, ?_, ?_⟩
  · rw [hsamples, ← hs.name_eq]
    exact htells.utters hs hsub
  · rw [hsamples, samplesOf_append, hs.rejections_eq, List.append_nil, h.rejected, hr]

theorem Told.rejects (h : Told name c) (hc : ∀ work ∈ c'.calls, Speaks work)
    (hsamples : c'.world.samples = c.world.samples ++ [rejectionSample name])
    (hb : c'.world.state.breaker = c.world.state.breaker) (hr : c'.rejections = c.rejections + 1) : Told name c' := by
  obtain ⟨edges, htells⟩ := h.tells
  refine ⟨hc, ?_, ?_, ⟨edges, ?_⟩, ?_⟩
  · rw [hb]
    exact h.name_eq
  · rw [hb]
    exact h.published
  · rw [hb, hsamples]
    exact htells.rejected
  · rw [hsamples, samplesOf_append, List.length_append, h.rejected, hr]
    rfl

theorem Told.goes (h : Told name c) (hs : Goes c c') : Told name c' := by
  obtain ⟨hspeaks, new, hsamples, hadds⟩ := hs.exists_adds h.speaks
  cases hadds with
  | utters hutters hr => exact h.utters hspeaks hsamples hutters (fun _ he => .inl he) hr
  | rejects hb hr => exact h.rejects hspeaks (by rw [← h.name_eq]; exact hsamples) hb hr
  | resets he hutters =>
    refine h.utters hspeaks hsamples hutters (by decide) ?_
    rw [he]
    rfl

theorem told_nil {settings : BreakerSettings} {b : Breaker} {samples : List Sample} {w : World ρ}
    (hb : Breaker.create name settings = .ok (b, samples)) (hw : w.shown = (samples, b)) (now : Instant) :
    Told name (⟨[], now, w⟩ : Crowd ρ ε α) := by
  obtain ⟨hsamples, hbreaker⟩ := Prod.mk.inj hw
  obtain ⟨-, -, rfl, rfl⟩ := Breaker.create_eq_ok_iff.1 hb
  refine ⟨fun _ hin => (by cases hin), ?_, ?_, ⟨[], ?_⟩, ?_⟩
  · rw [hbreaker]
  · rw [hbreaker]
  · rw [hbreaker, hsamples]
    exact .created name
  · rw [hsamples]
    rfl

/-- Whatever calls go through a new breaker, in whatever order, and whenever it is reset or its clock set: the samples
tell the changes of its state up to the present one, which readers see; the samples of rejections are as many as the
calls that were rejected; and an open breaker is sampled to close only when it is reset. -/
theorem samples_tell_breaker {settings : BreakerSettings} {b : Breaker} {samples : List Sample}
    (hb : Breaker.create name settings = .ok (b, samples)) {w : World ρ} (hw : w.shown = (samples, b)) {now : Instant}
    (h : Relation.ReflTransGen Goes ⟨[], now, w⟩ c) :
    (∃ edges, Tells name c.world.samples edges c.world.state.breaker.mode) ∧
    c.world.state.breaker.published = c.world.state.breaker.mode ∧
    (samplesOf c.world.samples .counter Family.rejections).length = c.rejections ∧
    ∀ c', Goes c c' → ∃ new, c'.world.samples = c.world.samples ++ new ∧
      ∀ s ∈ new, s.isOf .counter Family.transitions = true → s.edge? = some (.opened, .closed) →
        c' = { c with world := c.world.reset } := by
  have htold : Told name c := by
    induction h with
    | refl => exact told_nil hb hw now
    | tail _ hs ih => exact ih.goes hs
  refine ⟨htold.tells, htold.published, htold.rejected, fun c' hs => ?_⟩
  obtain ⟨-, new, hsamples, hadds⟩ := hs.exists_adds htold.speaks
  refine ⟨new, hsamples, fun s hin hs he => ?_⟩
  cases hadds with
  | utters hutters _ =>
    obtain ⟨e, hmem, hedge⟩ := hutters.edge_mem hin hs
    obtain rfl : e = (.opened, .closed) := Option.some.inj (hedge.symm.trans he)
    exact absurd hmem (by decide)
  | rejects _ _ =>
    obtain rfl := List.mem_singleton.1 hin
    cases hs
  | resets hreset _ => exact hreset

/-- A world with a new breaker that opens at one failure, and the sample of its making. -/
def newWorld : World Unit := { touchyWorld with samples := [stateSample "mailgun" .closed] }

/-- One call fails and opens the breaker, the next is rejected, and the breaker is reset. -/
theorem opened_rejected_reset : ∃ c : Crowd Unit String Unit, Relation.ReflTransGen Goes ⟨[], 0, newWorld⟩ c ∧
    c.calls = [.done (.error (.operation "503 service unavailable")), .done (.error (.rejected "mailgun"))] ∧
    (samplesOf c.world.samples .counter Family.rejections).length = 1 := by
  obtain ⟨c, h, hcalls⟩ : ∃ c : Crowd Unit String Unit, Relation.ReflTransGen Goes ⟨[], 0, newWorld⟩ c ∧
      c.calls = [.done (.error (.operation "503 service unavailable")), .done (.error (.rejected "mailgun"))] := by
    have empty : Relation.ReflTransGen Goes _ (⟨[], 0, newWorld⟩ : Crowd Unit String Unit) := .refl
    have joined := empty.tail (goes_joins .endless failing)
    have asking := joined.tail (@goes_acts _ _ _ _ _ _ 0 rfl)
    have admitted := asking.tail (@goes_acts _ _ _ _ _ _ 0 rfl)
    have opened := admitted.tail (@goes_acts _ _ _ _ _ _ 0 rfl)
    have second := opened.tail (goes_joins .endless failing)
    have asking := second.tail (@goes_acts _ _ _ _ _ _ 1 rfl)
    have rejected := asking.tail (@goes_acts _ _ _ _ _ _ 1 rfl)
    exact ⟨_, rejected.tail (.steps .resets fun _ _ hi => hi), rfl⟩
  obtain ⟨-, -, hlength, -⟩ := samples_tell_breaker Breaker.touchy_create rfl h
  refine ⟨c, h, hcalls, hlength.trans ?_⟩
  rw [rejections, hcalls]
  rfl

end Crowd
end MailReconciler
