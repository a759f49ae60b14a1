/-
Calls through one breaker, side by side. In a crowd every call is the work that `throughBreaker` describes; one of
them goes on at a time, as far as its next change of the shared world or its next wait, while time passes, the
breaker's clock is set, callers give up and the breaker is reset. Whatever the order, the breaker is always that of
a session of overlapping calls (`exists_run`): a call begins in it when the breaker lets it through, is in flight
until its outcome is recorded or it is given up, and does not touch the breaker in between.
-/
import MailReconciler.Proofs.Breaker.Call
import MailReconciler.Proofs.Breaker.Invariant
import MailReconciler.Proofs.Work.Running
import Mathlib.Data.String.Lemmas
import Mathlib.Logic.Function.Basic
import Mathlib.Logic.Relation

namespace MailReconciler

/-- A scope ends no work before it has begun. -/
theorem Work.within_ne_error {σ α : Type} (scope : Scope) (w : Work σ α) (reason : EndReason) :
    w.within scope ≠ .done (.error reason) := by
  cases w <;> exact nofun

/-! ## Crowds -/

/-- Calls through one breaker side by side: what is left of each, the present instant, and the world that they
share. -/
structure Crowd (ρ ε α : Type) where
  calls : List (Work (World ρ) (Except (BreakerFailure ε) α))
  now : Instant
  world : World ρ

namespace Crowd

variable {ρ ε α : Type} {c c' : Crowd ρ ε α}

/-- The world with another clock for its breaker. -/
def setClock (clock : BreakerClock) (w : World ρ) : World ρ := { w with state := { w.state with clock } }

/-- One step of a crowd. -/
inductive Step (c : Crowd ρ ε α) : Crowd ρ ε α → Prop
  /-- A further call is made. -/
  | joins (scope : Scope) (op : Work ρ (Except ε α)) : Step c { c with calls := c.calls ++ [throughBreaker scope op] }
  /-- A call changes the world and goes on. -/
  | acts {i : Nat} {change : Instant → World ρ → World ρ}
      {next : Instant → World ρ → Work (World ρ) (Except (BreakerFailure ε) α)} :
      c.calls[i]? = some (.act change next) →
      Step c { c with calls := c.calls.set i (next c.now c.world), world := change c.now c.world }
  /-- A call has waited long enough. -/
  | wakes {i : Nat} {wake : Instant} {next : Work (World ρ) (Except (BreakerFailure ε) α)} :
      c.calls[i]? = some (.wait wake next) → wake ≤ c.now → Step c { c with calls := c.calls.set i next }
  /-- A call is given up by its caller. -/
  | drops {i : Nat} : i < c.calls.length → Step c { c with calls := c.calls.set i .never }
  | passes {later : Instant} : c.now ≤ later → Step c { c with now := later }
  | sets (clock : BreakerClock) : Step c { c with world := setClock clock c.world }
  | resets : Step c { c with world := c.world.reset }

/-- A crowd that comes of a world without calls. -/
def Reachable (w : World ρ) (now : Instant) (c : Crowd ρ ε α) : Prop :=
  Relation.ReflTransGen Step ⟨[], now, w⟩ c

/-! ## Phases -/

/-- How far a call has come. -/
inductive Phase where
  | waiting
  | inFlight
  | ended
deriving DecidableEq

/-- What is left of a call in each phase. -/
inductive Fits : Phase → Work (World ρ) (Except (BreakerFailure ε) α) → Prop
  | begins (scope : Scope) (op : Work ρ (Except ε α)) : Fits .waiting (throughBreaker scope op)
  | asks (name : String) (scope : Scope) (op : Work ρ (Except ε α)) : Fits .waiting (askBreaker name scope op)
  | works (name : String) (w : Work (World ρ) (Except EndReason (Except ε α))) :
      w.Keeps (fun w => w.state.breaker) → (∀ reason, w ≠ .done (.error reason)) →
      Fits .inFlight (w.bind (concludeCall name))
  | ends (r : Except (BreakerFailure ε) α) : Fits .ended (.done r)
  | gone : Fits .ended .never

theorem insideBreaker_keeps (scope : Scope) (op : Work ρ (Except ε α)) :
    (insideBreaker scope op).Keeps fun w => w.state.breaker := by
  refine Work.keeps_within scope _ (Work.keeps_onPart ?_ op)
  intro remote w; rfl

theorem fits_insideBreaker (name : String) (scope : Scope) (op : Work ρ (Except ε α)) :
    Fits .inFlight ((insideBreaker scope op).bind (concludeCall name)) :=
  .works name _ (insideBreaker_keeps scope op) (Work.within_ne_error scope _)

/-- What is left of an operation in flight: it goes on, or its scope has ended and so has the call. -/
theorem fits_of_keeps (name : String) {w : Work (World ρ) (Except EndReason (Except ε α))}
    (h : w.Keeps fun w => w.state.breaker) :
    Fits .inFlight (w.bind (concludeCall name)) ∨ Fits .ended (w.bind (concludeCall name)) := by
  by_cases he : ∃ reason, w = .done (.error reason)
  · obtain ⟨reason, rfl⟩ := he
    exact .inr (.ends _)
  · exact .inl (.works name w h fun reason hw => he ⟨reason, hw⟩)

/-- The changes that a call makes, and what follows them. -/
inductive Acts : Phase → (Instant → World ρ → World ρ) →
    (Instant → World ρ → Work (World ρ) (Except (BreakerFailure ε) α)) → Prop
  | begins {change next} : (∀ now w, (change now w).state.breaker = w.state.breaker) →
      (∀ now w, Fits .waiting (next now w)) → Acts .waiting change next
  | asks {change next} : (∀ now w, change now w = (World.allow now w).2) →
      (∀ now w, (World.allow now w).1 = true → Fits .inFlight (next now w)) →
      (∀ now w, (World.allow now w).1 = false → Fits .ended (next now w)) → Acts .waiting change next
  | works {change next} : (∀ now w, (change now w).state.breaker = w.state.breaker) →
      (∀ now w, Fits .inFlight (next now w) ∨ Fits .ended (next now w)) → Acts .inFlight change next
  | records {change next} (succeeded : Bool) : change = World.record succeeded →
      (∀ now w, Fits .ended (next now w)) → Acts .inFlight change next

theorem Fits.acts {p : Phase} {change : Instant → World ρ → World ρ}
    {next : Instant → World ρ → Work (World ρ) (Except (BreakerFailure ε) α)} (h : Fits p (.act change next)) :
    Acts p change next := by
  generalize hw : Work.act change next = w at h
  cases h with
  | begins scope op =>
    rw [throughBreaker_eq] at hw
    cases hw
    exact .begins (fun _ _ => rfl) fun _ w => .asks w.state.breaker.name scope op
  | asks name scope op =>
    unfold askBreaker at hw
    cases hw
    refine .asks (fun _ _ => rfl) (fun now w ha => ?_) fun now w ha => ?_
    · rw [if_pos ha]; exact fits_insideBreaker name scope op
    · rw [ha]; exact .ends _
  | works name v hk hne =>
    cases v with
    | done r =>
      rcases r with reason | e | value
      · cases hw
      · cases hw; exact .records false rfl fun _ _ => .ends _
      · cases hw; exact .records true rfl fun _ _ => .ends _
    | act change' next' => cases hw; exact .works hk.1 fun now w => fits_of_keeps name (hk.2 now w)
    | wait wake next' => cases hw
    | never => cases hw
  | ends r => cases hw
  | gone => cases hw

/-- Only a call in flight waits. -/
theorem Fits.wait {p : Phase} {wake : Instant} {next : Work (World ρ) (Except (BreakerFailure ε) α)}
    (h : Fits p (.wait wake next)) : p = .inFlight ∧ (Fits .inFlight next ∨ Fits .ended next) := by
  generalize hw : Work.wait wake next = w at h
  cases h with
  | works name v hk hne =>
    cases v with
    | wait wake' next' => cases hw; exact ⟨rfl, fits_of_keeps name hk⟩
    | done r => rcases r with _ | _ | _ <;> cases hw
    | act change' next' => cases hw
    | never => cases hw
  | begins scope op => rw [throughBreaker_eq] at hw; cases hw
  | asks name scope op => unfold askBreaker at hw; cases hw
  | ends r => cases hw
  | gone => cases hw

/-- A session shows a crowd: they have the same breaker, and in flight in the session are the calls that are in the
crowd. Calls go by their position, under any names that are all different. -/
structure Shows (name : Nat → String) (phase : Nat → Phase) (c : Crowd ρ ε α) (s : BreakerSession) : Prop where
  breaker : s.breaker = c.world.state.breaker
  fits : ∀ i w, c.calls[i]? = some w → Fits (phase i) w
  later : ∀ i, c.calls.length ≤ i → phase i = .waiting
  inFlight : ∀ i, name i ∈ s.inFlight ↔ phase i = .inFlight
  nodup : s.inFlight.Nodup

/-! ## Calls in flight under names -/

section Flight

variable {name : Nat → String} {phase : Nat → Phase} {flight : List String} {i : Nat} {p : Phase}

/-- A call that neither takes off nor lands leaves the flight as it was. -/
theorem flight_same (h : ∀ j, name j ∈ flight ↔ phase j = .inFlight) (hp : p = .inFlight ↔ phase i = .inFlight)
    (j : Nat) : name j ∈ flight ↔ Function.update phase i p j = .inFlight := by
  by_cases hj : j = i
  · subst hj; rw [Function.update_self, hp]; exact h j
  · rw [Function.update_of_ne hj]; exact h j

theorem flight_cons (hn : Function.Injective name) (h : ∀ j, name j ∈ flight ↔ phase j = .inFlight) (j : Nat) :
    name j ∈ name i :: flight ↔ Function.update phase i .inFlight j = .inFlight := by
  by_cases hj : j = i
  · subst hj; simp
  · have hne : name j ≠ name i := fun he => hj (hn he)
    rw [Function.update_of_ne hj, List.mem_cons, h j]
    exact ⟨fun ho => ho.resolve_left hne, .inr⟩

theorem flight_erase (hn : Function.Injective name) (hd : flight.Nodup)
    (h : ∀ j, name j ∈ flight ↔ phase j = .inFlight) (j : Nat) :
    name j ∈ flight.erase (name i) ↔ Function.update phase i .ended j = .inFlight := by
  rw [hd.mem_erase_iff, h j]
  by_cases hj : j = i
  · subst hj; simp
  · rw [Function.update_of_ne hj]
    exact ⟨fun ho => ho.2, fun ho => ⟨fun he => hj (hn he), ho⟩⟩

end Flight

/-! ## Simulation -/

variable {name : Nat → String} {phase : Nat → Phase} {s : BreakerSession} {i : Nat} {p : Phase}

/-- One call goes on to another phase, in a world and a session that have the same breaker. -/
theorem Shows.set {w : Work (World ρ) (Except (BreakerFailure ε) α)} {world : World ρ} {t : BreakerSession}
    (h : Shows name phase c s) (hi : i < c.calls.length) (hf : Fits p w) (hb : t.breaker = world.state.breaker)
    (hin : ∀ j, name j ∈ t.inFlight ↔ Function.update phase i p j = .inFlight) (hd : t.inFlight.Nodup) :
    Shows name (Function.update phase i p) { c with calls := c.calls.set i w, world := world } t := by
  refine ⟨hb, fun j v hj => ?_, fun j hj => ?_, hin, hd⟩
  · rw [List.getElem?_set] at hj
    by_cases he : i = j
    · subst he
      rw [if_pos rfl, if_pos hi] at hj
      cases hj
      rw [Function.update_self]; exact hf
    · rw [if_neg he] at hj
      rw [Function.update_of_ne (Ne.symm he)]; exact h.fits j v hj
  · rw [List.length_set] at hj
    have hne : j ≠ i := by omega
    rw [Function.update_of_ne hne]; exact h.later j hj

/-- A call in flight that ends without an outcome is abandoned in the session. -/
theorem Shows.abandon {w : Work (World ρ) (Except (BreakerFailure ε) α)} {world : World ρ}
    (hn : Function.Injective name) (h : Shows name phase c s) (hi : i < c.calls.length) (hf : Fits .ended w)
    (hw : world.state.breaker = c.world.state.breaker) :
    Shows name (Function.update phase i .ended) { c with calls := c.calls.set i w, world := world }
      (s.after (.abandon (name i))) :=
  h.set hi hf (h.breaker.trans hw.symm) (flight_erase hn h.nodup h.inFlight) (h.nodup.erase _)

theorem Shows.acts {change : Instant → World ρ → World ρ}
    {next : Instant → World ρ → Work (World ρ) (Except (BreakerFailure ε) α)} (hn : Function.Injective name)
    (h : Shows name phase c s) (hc : c.calls[i]? = some (.act change next)) :
    ∃ phase' t, (t = s ∨ ∃ event, t = s.after event) ∧
      Shows name phase' { c with calls := c.calls.set i (next c.now c.world), world := change c.now c.world } t := by
  have hi : i < c.calls.length := (List.getElem?_eq_some_iff.1 hc).1
  have ha := (h.fits i _ hc).acts
  generalize hp : phase i = p at ha
  cases ha with
  | begins hk hf =>
    exact ⟨_, s, .inl rfl, h.set hi (hf c.now c.world) (h.breaker.trans (hk ..).symm)
      (flight_same h.inFlight (by rw [hp])) h.nodup⟩
  | asks hk ht hf =>
    -- the session asks the same breaker at the instant that the call reads
    have hout : name i ∉ s.inFlight := fun hin => by rw [(h.inFlight i).1 hin] at hp; cases hp
    have hb : ∀ at', s.breaker.allow at' = c.world.state.breaker.allow at' := fun _ => by rw [h.breaker]
    cases hall : (World.allow c.now c.world).1 with
    | true =>
      have hs : (s.breaker.allow (c.world.read c.now)).1 = true := by rw [hb, ← World.allow_fst]; exact hall
      refine ⟨_, _, .inr ⟨_, (BreakerSession.after_start_of_allow (name i) hs).symm⟩, h.set hi (ht _ _ hall) ?_ ?_ ?_⟩
      · rw [hk, World.allow_breaker]; exact congrArg (fun a => a.2.1) (hb _)
      · exact flight_cons hn h.inFlight
      · exact List.nodup_cons.2 ⟨hout, h.nodup⟩
    | false =>
      have hs : (s.breaker.allow (c.world.read c.now)).1 = false := by rw [hb, ← World.allow_fst]; exact hall
      have hout := BreakerSession.after_start_of_not_allow (name i) hs
      refine ⟨_, _, .inr ⟨_, hout.symm⟩, h.set hi (hf _ _ hall) ?_ ?_ h.nodup⟩
      · rw [hk, World.allow_breaker]; exact congrArg (fun a => a.2.1) (hb _)
      · exact flight_same h.inFlight (by rw [hp]; decide)
  | works hk hf =>
    -- the operation goes on, or its scope has ended and the call leaves no outcome
    rcases hf c.now c.world with hf | hf
    · exact ⟨_, s, .inl rfl, h.set hi hf (h.breaker.trans (hk ..).symm) (flight_same h.inFlight (by rw [hp])) h.nodup⟩
    · exact ⟨_, _, .inr ⟨_, rfl⟩, h.abandon hn hi hf (hk ..)⟩
  | records succeeded hk hf =>
    have hin : s.holds (name i) = true := List.contains_iff_mem.2 ((h.inFlight i).2 hp)
    have hs := BreakerSession.after_finish_of_holds (c.world.read c.now) succeeded hin
    refine ⟨_, _, .inr ⟨_, hs.symm⟩, h.set hi (hf _ _) ?_ (flight_erase hn h.nodup h.inFlight) (h.nodup.erase _)⟩
    rw [hk, World.record_breaker]; exact congrArg (fun b => (Breaker.record b _ succeeded).1) h.breaker

/-- Every step of a crowd is an event of its session or none. -/
theorem Shows.step (hn : Function.Injective name) (h : Shows name phase c s) (hs : Step c c') :
    ∃ phase' t, (t = s ∨ ∃ event, t = s.after event) ∧ Shows name phase' c' t := by
  cases hs with
  | joins scope op =>
    refine ⟨phase, s, .inl rfl, h.breaker, fun i w hi => ?_, fun i hi => ?_, h.inFlight, h.nodup⟩
    · -- the new call is the last one, and it has not asked yet
      rw [List.getElem?_append] at hi
      split at hi
      · exact h.fits i w hi
      · rename_i hle
        rw [h.later i (Nat.le_of_not_lt hle)]
        obtain rfl := List.mem_singleton.1 (List.mem_of_getElem? hi)
        exact .begins scope op
    · rw [List.length_append] at hi
      exact h.later i (Nat.le_trans (Nat.le_add_right ..) hi)
  | acts hc => exact h.acts hn hc
  | @wakes i wake next hc hw =>
    have hi : i < c.calls.length := (List.getElem?_eq_some_iff.1 hc).1
    obtain ⟨hp, hf | hf⟩ := (h.fits i _ hc).wait
    · exact ⟨_, s, .inl rfl, h.set hi hf h.breaker (flight_same h.inFlight (by rw [hp])) h.nodup⟩
    · exact ⟨_, _, .inr ⟨_, rfl⟩, h.abandon hn hi hf rfl⟩
  | drops hi => exact ⟨_, _, .inr ⟨_, rfl⟩, h.abandon hn hi .gone rfl⟩
  | passes hle => exact ⟨phase, s, .inl rfl, h.breaker, h.fits, h.later, h.inFlight, h.nodup⟩
  | sets clock => exact ⟨phase, s, .inl rfl, h.breaker, h.fits, h.later, h.inFlight, h.nodup⟩
  | resets =>
    refine ⟨phase, _, .inr ⟨.reset, rfl⟩, ?_, h.fits, h.later, h.inFlight, h.nodup⟩
    show s.breaker.reset.1 = c.world.reset.state.breaker
    rw [World.reset_breaker, h.breaker]

/-! ## Reachable crowds -/

/-- The crowd that a world begins with is shown by the session that its breaker begins. -/
theorem shows_nil (w : World ρ) (now : Instant) :
    Shows name (fun _ => .waiting) (⟨[], now, w⟩ : Crowd ρ ε α) (.ofBreaker w.state.breaker) :=
  ⟨rfl, fun _ _ h => (by cases h), fun _ _ => rfl, fun _ => ⟨fun h => (by cases h), fun h => (by cases h)⟩, .nil⟩

/-- Whatever the order in which its calls go on, a crowd is shown by a run of a session with its first breaker. -/
theorem Reachable.exists_run {w : World ρ} {now : Instant} (hn : Function.Injective name) (h : Reachable w now c) :
    ∃ past s phase, BreakerSession.Run (.ofBreaker w.state.breaker) past s ∧ Shows name phase c s := by
  induction h with
  | refl => exact ⟨[], _, _, .nil, shows_nil w now⟩
  | tail _ hstep ih =>
    obtain ⟨past, s, phase, hrun, hs⟩ := ih
    obtain ⟨phase', t, rfl | ⟨event, rfl⟩, ht⟩ := hs.step hn hstep
    · exact ⟨past, _, phase', hrun, ht⟩
    · exact ⟨_, _, phase', hrun.step event, ht⟩

/-- A name for every call: its position in strokes. -/
def strokes (i : Nat) : String := String.replicate i '|'

theorem strokes_injective : Function.Injective strokes := by
  intro i j h
  rw [← String.length_replicate i '|', ← String.length_replicate j '|']
  exact congrArg String.length h

theorem Reachable.sound {w : World ρ} {now : Instant} (h : Reachable w now c) (hw : w.state.breaker.Sound) :
    c.world.state.breaker.Sound ∧ c.world.state.breaker.settings = w.state.breaker.settings := by
  obtain ⟨past, s, phase, hrun, hs⟩ := h.exists_run strokes_injective
  rw [← hs.breaker]
  exact ⟨hrun.sound hw, hrun.settings_eq⟩

/-- Whatever calls go through a breaker, in whatever order: it is closed exactly while its failures are below their
threshold; its trials are below theirs, so that one more is still a number of thirty-two bits, and none while it is
closed; it remembers a failure while it is not closed; readers see its mode, and so does readiness. -/
theorem counters_tell_mode {name : String} {settings : BreakerSettings} {b : Breaker} {samples : List Sample}
    (hb : Breaker.create name settings = .ok (b, samples)) {w : World ρ} (hw : w.state.breaker = b) {now : Instant}
    (h : Reachable w now c) :
    (c.world.state.breaker.mode = .closed ↔ c.world.state.breaker.failures < settings.failureThreshold.toNat) ∧
    c.world.state.breaker.trials < settings.successThreshold.toNat ∧
    c.world.state.breaker.trials + 1 < UInt32.size ∧
    (c.world.state.breaker.mode = .closed → c.world.state.breaker.trials = 0) ∧
    (c.world.state.breaker.mode ≠ .closed → c.world.state.breaker.lastFailure.isSome) ∧
    c.world.state.breaker.published = c.world.state.breaker.mode ∧
    (Provider.isReady c.world = true ↔ c.world.state.breaker.mode ≠ .opened) := by
  obtain ⟨hs, hset⟩ := h.sound (hw ▸ Breaker.sound_create hb)
  have hsettings : c.world.state.breaker.settings = settings := by rw [hset, hw, Breaker.create_eq hb]
  have htrials := hs.trials_lt
  rw [hsettings] at htrials
  refine ⟨hsettings ▸ hs.closed_iff, htrials, ?_, hs.trials_closed, hs.failed, hs.published, ?_⟩
  · have := settings.successThreshold.toNat_lt_size
    omega
  · unfold Provider.isReady
    rw [hs.published, decide_eq_true_iff]

/-- An operation that fails. -/
def failing : Work Unit (Except String Unit) := .done (.error "503 service unavailable")

/-- A world whose breaker opens at one failure. -/
def touchyWorld : World Unit := ⟨[], .cycle [], .touchy, .ofRun, ()⟩

/-- Two calls are let through by a breaker that one failure opens, and both fail: the second failure is counted
while the breaker is open. -/
theorem late_failure_counted : ∃ c : Crowd Unit String Unit, Reachable touchyWorld 0 c ∧
    c.world.state.breaker.failures = 2 ∧ c.world.state.breaker.mode ≠ .closed ∧
    c.world.state.breaker.lastFailure.isSome := by
  obtain ⟨c, h, hf⟩ : ∃ c : Crowd Unit String Unit, Reachable touchyWorld 0 c ∧
      c.world.state.breaker.failures = 2 := by
    have none : Reachable touchyWorld 0 (⟨[], 0, touchyWorld⟩ : Crowd Unit String Unit) := .refl
    have joined := (none.tail (Step.joins .endless failing)).tail (Step.joins .endless failing)
    have asking := (joined.tail (Step.acts (i := 0) rfl)).tail (Step.acts (i := 1) rfl)
    have admitted := (asking.tail (Step.acts (i := 0) rfl)).tail (Step.acts (i := 1) rfl)
    exact ⟨_, (admitted.tail (Step.acts (i := 0) rfl)).tail (Step.acts (i := 1) rfl), rfl⟩
  obtain ⟨hclosed, -, -, -, hlast, -, -⟩ := counters_tell_mode Breaker.touchy_create rfl h
  have hne : c.world.state.breaker.mode ≠ .closed := by
    intro hm
    have : c.world.state.breaker.failures < 1 := hclosed.1 hm
    omega
  exact ⟨c, h, hf, hne, hlast hne⟩

end Crowd
end MailReconciler
