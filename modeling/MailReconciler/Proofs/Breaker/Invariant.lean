/-
The invariant of a breaker that guards overlapping calls: its mode is told by its counters, and readers who do not
wait for their turn see the mode. It holds of a new breaker, every event preserves it, and so it holds after every
run.
-/
import MailReconciler.Proofs.Breaker.Run
import MailReconciler.Provider.Basic

namespace MailReconciler

namespace Breaker

/-- The invariant: a breaker is closed exactly while its failures are below the threshold; its trials stay below
theirs and are none while it is closed; a breaker that is not closed remembers a failure; the published mode is the
mode. -/
structure Sound (b : Breaker) : Prop where
  failureThreshold_pos : 0 < b.settings.failureThreshold.toNat
  closed_iff : b.mode = .closed ↔ b.failures < b.settings.failureThreshold.toNat
  trials_lt : b.trials < b.settings.successThreshold.toNat
  trials_closed : b.mode = .closed → b.trials = 0
  failed : b.mode ≠ .closed → b.lastFailure.isSome
  published : b.published = b.mode

theorem Sound.of_closed {b : Breaker} (hm : b.mode = .closed)
    (hf : b.failures < b.settings.failureThreshold.toNat) (ht : b.trials < b.settings.successThreshold.toNat)
    (hz : b.trials = 0) (hp : b.published = b.mode) : b.Sound :=
  ⟨Nat.zero_lt_of_lt hf, ⟨fun _ => hf, fun _ => hm⟩, ht, fun _ => hz, fun h => absurd hm h, hp⟩

theorem Sound.of_not_closed {b : Breaker} (hm : b.mode ≠ .closed) (hpos : 0 < b.settings.failureThreshold.toNat)
    (hf : b.settings.failureThreshold.toNat ≤ b.failures) (ht : b.trials < b.settings.successThreshold.toNat)
    (hl : b.lastFailure.isSome) (hp : b.published = b.mode) : b.Sound :=
  ⟨hpos, ⟨fun h => absurd h hm, fun h => absurd h (Nat.not_lt.2 hf)⟩, ht, fun h => absurd h hm, fun _ => hl, hp⟩

theorem Sound.threshold_le {b : Breaker} (h : b.Sound) (hm : b.mode ≠ .closed) :
    b.settings.failureThreshold.toNat ≤ b.failures :=
  Nat.le_of_not_lt fun hlt => hm (h.closed_iff.2 hlt)

/-! ## A new breaker -/

/-- A breaker is made exactly with positive thresholds, and then it is closed and has seen nothing. -/
theorem create_eq_ok_iff {name : String} {settings : BreakerSettings} {b : Breaker} {samples : List Sample} :
    create name settings = .ok (b, samples) ↔
      settings.failureThreshold ≠ 0 ∧ settings.successThreshold ≠ 0 ∧
        b = ⟨name, settings, .closed, .closed, 0, 0, none⟩ ∧
        samples = [.gauge Family.breakerState BreakerMode.closed.code [("breaker", name)]] := by
  unfold create BreakerSettings.check
  by_cases hf : settings.failureThreshold = 0
  · simp [hf, bind, Except.bind]
  · by_cases hs : settings.successThreshold = 0
    · simp [hf, hs, bind, Except.bind]
    · simp only [hf, hs, if_false, bind, Except.bind, pure, Except.pure, publish, Except.ok.injEq, Prod.mk.injEq,
        ne_eq, not_false_eq_true, true_and]
      exact and_congr eq_comm eq_comm

theorem create_eq {name : String} {settings : BreakerSettings} {b : Breaker} {samples : List Sample}
    (h : create name settings = .ok (b, samples)) : b = ⟨name, settings, .closed, .closed, 0, 0, none⟩ :=
  (create_eq_ok_iff.1 h).2.2.1

theorem toNat_pos_of_ne_zero {n : UInt32} (h : n ≠ 0) : 0 < n.toNat :=
  Nat.pos_of_ne_zero fun h0 => h (UInt32.toNat_inj.1 h0)

theorem sound_create {name : String} {settings : BreakerSettings} {b : Breaker} {samples : List Sample}
    (h : create name settings = .ok (b, samples)) : b.Sound := by
  obtain ⟨hf, hs, rfl, -⟩ := create_eq_ok_iff.1 h
  exact .of_closed rfl (toNat_pos_of_ne_zero hf) (toNat_pos_of_ne_zero hs) rfl rfl

/-- A breaker that opens at one failure and closes after one success. -/
def touchy : Breaker := ⟨"mailgun", ⟨1, .ofSeconds 30, 1⟩, .closed, .closed, 0, 0, none⟩

theorem touchy_create : create "mailgun" ⟨1, .ofSeconds 30, 1⟩ =
    .ok (touchy, [.gauge Family.breakerState BreakerMode.closed.code [("breaker", "mailgun")]]) := rfl

/-! ## One step -/

variable {b b' : Breaker} {now : Instant} {succeeded : Bool}

/-- A failure more is noted exactly, as long as the number fits below a threshold. -/
theorem noteFailure_failures (now : Instant) (h : b.failures < b.settings.failureThreshold.toNat) :
    (b.noteFailure now).failures = b.failures + 1 := by
  have := b.settings.failureThreshold.toNat_lt_size
  unfold noteFailure; simp only; omega

/-- Once the threshold is reached, a failure more leaves it reached, also where the number does not grow. -/
theorem threshold_le_noteFailure (now : Instant) (h : b.settings.failureThreshold.toNat ≤ b.failures) :
    b.settings.failureThreshold.toNat ≤ (b.noteFailure now).failures := by
  have := b.settings.failureThreshold.toNat_lt_size
  unfold noteFailure; simp only; omega

theorem Takes.settings_eq (h : b.Takes now succeeded b') : b'.settings = b.settings := by
  cases h <;> rfl

/-- Every outcome preserves the invariant. -/
theorem Sound.takes (hb : b.Sound) (h : b.Takes now succeeded b') : b'.Sound := by
  have hpos := hb.failureThreshold_pos
  have hlt := hb.trials_lt
  cases h with
  | forgets hm => exact .of_closed hm hpos hlt (hb.trials_closed hm) hb.published
  | counts hm ht =>
    have hne : b.mode ≠ .closed := by rw [hm]; decide
    exact .of_not_closed hne hpos (hb.threshold_le hne) ht (hb.failed hne) hb.published
  | recovers hm ht => exact .of_closed rfl hpos (Nat.zero_lt_of_lt hlt) rfl rfl
  | ignores hm => exact hb
  | bears hm hf => exact .of_closed hm hf hlt (hb.trials_closed hm) hb.published
  | trips hm hf => exact .of_not_closed nofun hpos hf hlt rfl rfl
  | relapses hm =>
    have hle := hb.threshold_le (by rw [hm]; decide)
    exact .of_not_closed nofun hpos (threshold_le_noteFailure now hle) hlt rfl rfl
  | prolongs hm =>
    have hne : b.mode ≠ .closed := by rw [hm]; decide
    exact .of_not_closed hne hpos (threshold_le_noteFailure now (hb.threshold_le hne)) hlt rfl hb.published

/-- A breaker that begins its trials keeps the failures that opened it. -/
theorem Sound.halfOpen (hb : b.Sound) (hm : b.mode = .opened) :
    Sound { b with mode := .halfOpen, published := .halfOpen, trials := 0 } := by
  have hne : b.mode ≠ .closed := by rw [hm]; decide
  exact .of_not_closed nofun hb.failureThreshold_pos (hb.threshold_le hne) (Nat.zero_lt_of_lt hb.trials_lt)
    (hb.failed hne) rfl

theorem Sound.reset (hb : b.Sound) : b.reset.1.Sound := by
  rw [reset_eq]
  refine .of_closed rfl hb.failureThreshold_pos (Nat.zero_lt_of_lt hb.trials_lt) rfl ?_
  by_cases hm : b.mode = .closed
  · simp only [hm, if_true]; exact hb.published.trans hm
  · simp only [hm, if_false]

end Breaker

namespace BreakerSession

variable {s₀ s t : BreakerSession} {event : Event} {past : List Entry}

theorem Effect.sound (h : Effect s event t) (hs : s.breaker.Sound) : t.breaker.Sound := by
  cases h with
  | admitted _ => exact hs
  | probes hm _ => exact hs.halfOpen hm
  | rejected _ _ => exact hs
  | records _ ht => exact hs.takes ht
  | unknown _ => exact hs
  | abandons => exact hs
  | resets => exact hs.reset

theorem Effect.settings_eq (h : Effect s event t) : t.breaker.settings = s.breaker.settings := by
  cases h with
  | records _ ht => exact ht.settings_eq
  | resets => show s.breaker.reset.1.settings = _; rw [Breaker.reset_eq]
  | _ => rfl

/-! ## Runs -/

theorem Run.sound (h : Run s₀ past s) (h₀ : s₀.breaker.Sound) : s.breaker.Sound := by
  induction h with
  | nil => exact h₀
  | step _ event ih => exact (effect_after _ event).sound ih

theorem Run.settings_eq (h : Run s₀ past s) : s.breaker.settings = s₀.breaker.settings := by
  induction h with
  | nil => rfl
  | step _ event ih => exact (effect_after _ event).settings_eq.trans ih

end BreakerSession
end MailReconciler
