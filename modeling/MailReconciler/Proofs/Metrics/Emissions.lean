/-
What retried operations and breakers give the collectors. Every sample of theirs is one that the exposition gathers: it
counts one if it is a counter, and has the labels of its family. `Emits` says so of work whatever states it meets, so
that others may be at work between any two of its steps; a crowd of calls through one breaker is the case of many.
-/
import MailReconciler.Proofs.Breaker.Chronicle
import MailReconciler.Proofs.Client.Spending
import MailReconciler.Proofs.Metrics.Agreement

namespace MailReconciler

/-! ## Logs that grow -/

/-- A log goes on with samples of a sort. -/
def Recording.Grows (sort : Sample → Prop) (before after : List Sample) : Prop :=
  ∃ new, after = before ++ new ∧ ∀ s ∈ new, sort s

namespace Recording

variable {sort sort' : Sample → Prop} {first second third : List Sample}

theorem grows_refl (sort : Sample → Prop) (samples : List Sample) : Grows sort samples samples :=
  ⟨[], (List.append_nil _).symm, fun _ h => by cases h⟩

theorem Grows.trans (h : Grows sort first second) (h' : Grows sort second third) : Grows sort first third := by
  obtain ⟨new, rfl, hnew⟩ := h
  obtain ⟨new', rfl, hnew'⟩ := h'
  exact ⟨new ++ new', List.append_assoc .., fun s hin => (List.mem_append.1 hin).elim (hnew s) (hnew' s)⟩

theorem Grows.mono (himp : ∀ s, sort s → sort' s) (h : Grows sort first second) : Grows sort' first second := by
  obtain ⟨new, hnew, hall⟩ := h
  exact ⟨new, hnew, fun s hin => himp s (hall s hin)⟩

end Recording

namespace Work

open Recording

variable {σ α β : Type} {sort sort' : Sample → Prop}

/-- The work only adds samples of a sort to those that are there, whatever states it meets and however far it gets. -/
def Emits (sort : Sample → Prop) : Work (Recorded σ) α → Prop
  | .done _ => True
  | .act change next => ∀ now r, Grows sort r.samples (change now r).samples ∧ (next now r).Emits sort
  | .wait _ next => next.Emits sort
  | .never => True

theorem Emits.mono (himp : ∀ s, sort s → sort' s) : ∀ {w : Work (Recorded σ) α}, w.Emits sort → w.Emits sort'
  | .done _, _ => trivial
  | .act _ _, h => fun now r => ⟨(h now r).1.mono himp, (h now r).2.mono himp⟩
  | .wait _ next, h => Emits.mono himp (w := next) h
  | .never, _ => trivial

/-- Run alone, the work has added such samples by its end. -/
theorem Emits.grows : ∀ {w : Work (Recorded σ) α}, w.Emits sort → ∀ {now t : Instant} {r r' : Recorded σ} {a : α},
    w.run now r = some (a, t, r') → Grows sort r.samples r'.samples
  | .done _, _, _, _, _, _, _, hr => by cases hr; exact grows_refl ..
  | .act _ _, h, now, _, r, _, _, hr => (h now r).1.trans ((h now r).2.grows hr)
  | .wait _ next, h, _, _, _, _, _, hr => Emits.grows (w := next) h hr
  | .never, _, _, _, _, _, _, hr => by cases hr

theorem emits_bind {k : α → Work (Recorded σ) β} (hk : ∀ a, (k a).Emits sort) :
    ∀ {w : Work (Recorded σ) α}, w.Emits sort → (w.bind k).Emits sort
  | .done a, _ => hk a
  | .act _ _, h => fun now r => ⟨(h now r).1, emits_bind hk (h now r).2⟩
  | .wait _ next, h => emits_bind hk (w := next) h
  | .never, _ => trivial

theorem Keeps.emits (sort : Sample → Prop) :
    ∀ {w : Work (Recorded σ) α}, w.Keeps (fun r => r.samples) → w.Emits sort
  | .done _, _ => trivial
  | .act change _, h => fun now r => by
    have hsame : (change now r).samples = r.samples := h.1 now r
    refine ⟨?_, (h.2 now r).emits sort⟩
    rw [hsame]
    exact grows_refl ..
  | .wait _ next, h => Keeps.emits sort (w := next) h
  | .never, _ => trivial

theorem emits_emit {samples : List Sample} (h : ∀ s ∈ samples, sort s) {next : Work (Recorded σ) α}
    (hnext : next.Emits sort) : (Work.act (fun _ r => Recorded.emit samples r) fun _ _ => next).Emits sort :=
  fun _ _ => ⟨⟨samples, rfl, h⟩, hnext⟩

end Work

/-! ## Samples of the library -/

/-- A genuine sample of a registered family with its labels: no collector drops it. -/
structure Sample.Taken (s : Sample) : Prop where
  genuine : s.Genuine
  accepted : s.Accepted

namespace Sample

variable {s : Sample}

/-- A sample whose labels are in the order of a family of its kind and name. -/
theorem taken_of_any (hcounts : s.kind = .counter → s.value = 1.0)
    (h : (MetricFamily.all.any fun f => s.isOf f.kind f.name && s.labels.names == f.labelNames) = true) : s.Taken := by
  obtain ⟨f, hf, hs⟩ := List.any_eq_true.1 h
  rw [Bool.and_eq_true, beq_iff_eq] at hs
  exact ⟨⟨hcounts, hs.2 ▸ MetricFamily.nodup_labelNames hf⟩, f, hf, hs.1, .of_eq hs.2⟩

theorem taken_attemptSample (operation : String) (outcome : Retry.Outcome) :
    (Retry.attemptSample operation outcome).Taken := taken_of_any (fun _ => rfl) rfl

theorem taken_runSample (operation : String) (outcome : Retry.Outcome) : (Retry.runSample operation outcome).Taken :=
  taken_of_any (fun _ => rfl) rfl

theorem taken_backoff (operation : String) (wait : Duration) :
    (Sample.time Family.backoff wait [("operation", operation)]).Taken := taken_of_any (fun h => by cases h) rfl

theorem taken_stateSample (name : String) (mode : BreakerMode) : (stateSample name mode).Taken :=
  taken_of_any (fun h => by cases h) rfl

theorem taken_changeSample (name : String) (e : Edge) : (changeSample name e).Taken := taken_of_any (fun _ => rfl) rfl

theorem taken_rejectionSample (name : String) : (rejectionSample name).Taken := taken_of_any (fun _ => rfl) rfl

end Sample

/-! ## Retried operations -/

namespace Retry

variable {σ ε α : Type} {sort : Sample → Prop} {operation : String}

theorem emits_finish (hsort : ∀ s : Sample, s.Taken → sort s) (outcome : Outcome) (run : Run ε α) :
    (finish operation outcome run : Work (Recorded σ) (Run ε α)).Emits sort :=
  Work.emits_emit (List.forall_mem_singleton.2 (hsort _ (Sample.taken_runSample ..))) trivial

variable [Report ε] {policy : Policy} {scope : Scope} {op : Nat → Work (Recorded σ) (Except ε α)} {spare attempt : Nat}

/-- What follows an attempt emits what the end of its run or its wait emits, and what follows the wait. -/
theorem emits_afterAttempt (hsort : ∀ s : Sample, s.Taken → sort s)
    (hwait : ∀ rest e reason, spare = rest + 1 →
      (afterWait policy scope operation op rest attempt e reason).Emits sort) (outcome : Except ε α) :
    (afterAttempt policy scope operation op spare attempt outcome).Emits sort := by
  have hattempt : ∀ outcome, ∀ s ∈ [attemptSample operation outcome], sort s := fun outcome =>
    List.forall_mem_singleton.2 (hsort _ (Sample.taken_attemptSample ..))
  cases outcome with
  | ok value => exact Work.emits_emit (hattempt .success) (emits_finish hsort _ _)
  | error e =>
    refine Work.emits_emit (hattempt .failure) ?_
    cases spare with
    | zero => exact emits_finish hsort _ _
    | succ rest =>
      cases hp : policy.retries e with
      | false =>
        rw [afterFailure_of_permanent hp]
        exact emits_finish hsort _ _
      | true =>
        rw [afterFailure_of_retries hp]
        have hbackoff : ∀ wait, ∀ s ∈ [Sample.time Family.backoff wait [("operation", operation)]], sort s :=
          fun wait => List.forall_mem_singleton.2 (hsort _ (Sample.taken_backoff ..))
        refine fun now r => ⟨⟨_, rfl, hbackoff _⟩, ?_⟩
        exact Work.emits_bind (fun reason => hwait rest e reason rfl) ((Work.keeps_pause scope _).emits sort)

theorem emits_attemptFrom (hsort : ∀ s : Sample, s.Taken → sort s) (hop : ∀ k, (op k).Emits sort)
    (spare attempt : Nat) : (attemptFrom policy scope operation op spare attempt).Emits sort := by
  induction spare generalizing attempt with
  | zero =>
    rw [attemptFrom_eq]
    exact Work.emits_bind (emits_afterAttempt hsort nofun) (hop attempt)
  | succ spare ih =>
    rw [attemptFrom_eq]
    refine Work.emits_bind (emits_afterAttempt hsort fun rest e reason hrest => ?_) (hop attempt)
    cases hrest
    cases reason with
    | some reason => exact emits_finish hsort _ _
    | none => exact ih (attempt + 1)

/-- A run of attempts emits taken samples, besides what its operation emits. -/
theorem emits_run {own : Sample → Prop} (hop : ∀ k, (op k).Emits own) :
    (run policy scope operation op).Emits fun s => s.Taken ∨ own s :=
  emits_attemptFrom (fun _ => .inl) (fun k => (hop k).mono fun _ => .inr) _ _

end Retry

/-! ## Breakers -/

namespace Breaker

variable {b b' : Breaker} {new : List Sample} {edges : List Edge}

theorem Utters.taken (h : Utters edges b new b') : ∀ s ∈ new, s.Taken := by
  cases h with
  | keeps _ _ _ => exact List.forall_mem_nil _
  | enters _ _ _ =>
    refine List.forall_mem_cons.2 ⟨Sample.taken_changeSample .., ?_⟩
    exact List.forall_mem_singleton.2 (Sample.taken_stateSample ..)

theorem taken_create {name : String} {settings : BreakerSettings} (h : create name settings = .ok (b, new)) :
    ∀ s ∈ new, s.Taken := by
  obtain ⟨-, -, -, rfl⟩ := create_eq_ok_iff.1 h
  exact List.forall_mem_singleton.2 (Sample.taken_stateSample name .closed)

theorem taken_allow (b : Breaker) (now : Instant) : ∀ s ∈ (b.allow now).2.2, s.Taken := by
  cases ha : (b.allow now).1 with
  | true => exact (utters_allow ha).taken
  | false =>
    rw [allow_of_rejected ha]
    exact List.forall_mem_singleton.2 (Sample.taken_rejectionSample b.name)

end Breaker

/-! ## Calls -/

section Calls

variable {ρ ε α : Type} {w : World ρ} {now : Instant}

theorem grows_allow (now : Instant) (w : World ρ) :
    Recording.Grows Sample.Taken w.samples (World.allow now w).2.samples :=
  ⟨_, World.allow_samples now w, Breaker.taken_allow _ _⟩

theorem grows_record (succeeded : Bool) (now : Instant) (w : World ρ) :
    Recording.Grows Sample.Taken w.samples (World.record succeeded now w).samples :=
  ⟨_, World.record_samples succeeded now w, (Breaker.utters_record ..).taken⟩

theorem grows_reset (w : World ρ) : Recording.Grows Sample.Taken w.samples w.reset.samples :=
  ⟨_, World.reset_samples w, (Breaker.utters_reset _).taken⟩

/-- A call through a breaker emits what the breaker says of it. -/
theorem emits_throughBreaker (scope : Scope) (op : Work ρ (Except ε α)) :
    (throughBreaker scope op).Emits Sample.Taken := by
  rw [throughBreaker_eq]
  refine fun _ w => ⟨Recording.grows_refl .., fun now v => ⟨grows_allow now v, ?_⟩⟩
  cases ha : (World.allow now v).1 with
  | false =>
    simp only [ha, Bool.false_eq_true, if_false]
    trivial
  | true =>
    simp only [ha, if_true]
    have hkeeps : (insideBreaker scope op).Keeps fun w => w.samples := by
      refine Work.keeps_within scope _ (Work.keeps_onPart ?_ op)
      intro remote w
      rfl
    refine Work.emits_bind (fun ending => ?_) (hkeeps.emits _)
    rcases ending with reason | e | value
    · trivial
    · exact fun now w => ⟨grows_record false now w, trivial⟩
    · exact fun now w => ⟨grows_record true now w, trivial⟩

/-- A guarded call emits what its breaker and its attempts emit, and nothing else. -/
theorem emits_guarded (policy : Policy) (scope : Scope) (operation : String)
    (op : Nat → Work ρ (Except ApiFailure α)) : (guarded policy scope operation op).Emits Sample.Taken := by
  have hrun : (Retry.run policy scope operation fun k => throughBreaker scope (op k)).Emits Sample.Taken :=
    (Retry.emits_run fun k => emits_throughBreaker scope (op k)).mono fun _ h => h.elim id id
  rw [guarded_eq_callFrom]
  refine Work.emits_bind (fun run => ?_) hrun
  trivial

end Calls

namespace Crowd

open Recording

variable {ρ ε α : Type} {c c' : Crowd ρ ε α}

/-- A step of a crowd adds taken samples, and so will what it leaves of the calls. -/
theorem Goes.grows (h : Goes c c') (hc : ∀ work ∈ c.calls, work.Emits Sample.Taken) :
    Grows Sample.Taken c.world.samples c'.world.samples ∧ ∀ work ∈ c'.calls, work.Emits Sample.Taken := by
  have hset : ∀ {i : Nat} {left : Work (World ρ) (Except (BreakerFailure ε) α)}, left.Emits Sample.Taken →
      ∀ work ∈ c.calls.set i left, work.Emits Sample.Taken := fun hleft work hin =>
    (List.mem_or_eq_of_mem_set hin).elim (hc work) fun heq => heq ▸ hleft
  cases h with
  | interrupts name reason _ => exact ⟨grows_refl .., hset trivial⟩
  | steps hs _ =>
    cases hs with
    | joins scope op =>
      refine ⟨grows_refl .., fun work hin => ?_⟩
      rcases List.mem_append.1 hin with hin | hin
      · exact hc work hin
      · rw [List.mem_singleton.1 hin]
        exact emits_throughBreaker scope op
    | acts hi =>
      have hact := hc _ (List.mem_of_getElem? hi) c.now c.world
      exact ⟨hact.1, hset hact.2⟩
    | @wakes _ wake next hi _ =>
      have hnext : (Work.wait wake next).Emits Sample.Taken := hc _ (List.mem_of_getElem? hi)
      exact ⟨grows_refl .., hset hnext⟩
    | drops _ => exact ⟨grows_refl .., hset trivial⟩
    | passes _ | sets _ => exact ⟨grows_refl .., hc⟩
    | resets => exact ⟨grows_reset _, hc⟩

/-- Calls through one breaker add taken samples, whatever their operations and their order. -/
theorem grows_of_goes {w : World ρ} {now : Instant} (h : Relation.ReflTransGen Goes ⟨[], now, w⟩ c) :
    Grows Sample.Taken w.samples c.world.samples := by
  have hall : Grows Sample.Taken w.samples c.world.samples ∧ ∀ work ∈ c.calls, work.Emits Sample.Taken := by
    induction h with
    | refl => exact ⟨grows_refl .., List.forall_mem_nil _⟩
    | tail _ hs ih => exact ⟨ih.1.trans (hs.grows ih.2).1, (hs.grows ih.2).2⟩
  exact hall.1

end Crowd

/-! ## Both collectors -/

open Exposition Recording

/-- The exposition agrees with the recording. For every registered family and every assignment of its labels, it has
gathered what the recorded samples of that kind and name give whose labels are just these, in any order, and that stands
in its text; a sample that is not accepted leaves the text as it is, wherever it comes. Runs of attempts and breakers
emit accepted samples only: a run whatever its operation does, a breaker when it is made and for all calls through
it, in whatever order, and whenever it is reset. -/
theorem exposition_agrees_with_recording {samples : List Sample} (hs : ∀ s ∈ samples, s.Genuine) :
    (∀ f ∈ MetricFamily.all, ∀ values : List String, values.length = f.labelNames.length →
      ∀ labels : Labels, labels.Perm (f.labelNames.zip values) →
        Agrees (((ofSamples samples).childrenOf f.name).get? values) f.kind f.name labels
          (labelled samples labels) ∧
        ∀ child, ((ofSamples samples).childrenOf f.name).get? values = some child →
          ∀ line ∈ metricLines f values child, line ∈ (ofSamples samples).lines) ∧
    (∀ before s after, samples = before ++ s :: after → ¬s.Accepted →
      (ofSamples samples).render = (ofSamples (before ++ after)).render) ∧
    (∀ (σ ε α : Type) [Report ε] (policy : Policy) (scope : Scope) (operation : String)
      (op : Nat → Work (Recorded σ) (Except ε α)) (own : Sample → Prop), (∀ k, (op k).Emits own) →
      (Retry.run policy scope operation op).Emits fun s => s.Taken ∨ own s) ∧
    (∀ name settings b new, Breaker.create name settings = .ok (b, new) → ∀ s ∈ new, s.Taken) ∧
    (∀ (ρ ε α : Type) (w : World ρ) (now : Instant) (c : Crowd ρ ε α),
      Relation.ReflTransGen Crowd.Goes ⟨[], now, w⟩ c → Grows Sample.Taken w.samples c.world.samples) ∧
    ∀ (ρ α : Type) (policy : Policy) (scope : Scope) (operation : String) (op : Nat → Work ρ (Except ApiFailure α)),
      (guarded policy scope operation op).Emits Sample.Taken := by
  refine ⟨fun f hf values hv labels hperm => ⟨agrees_ofSamples hs hf hv hperm, fun child hchild line hline =>
    mem_lines hf hchild hline⟩, ?_, fun σ ε α _ policy scope operation op own hop => Retry.emits_run hop,
    fun _ _ _ _ hb => Breaker.taken_create hb, fun ρ ε α w now c h => Crowd.grows_of_goes h,
    fun ρ α policy scope operation op => emits_guarded policy scope operation op⟩
  rintro before s after rfl hnot
  rw [ofSamples_of_not_accepted (hs s (by simp)) hnot]

/-- The sample of an attempt with its labels in both orders, and with one that is missing. -/
def mixedSamples : List Sample :=
  [.count Family.attempts [("operation", "get_route"), ("outcome", "success")],
    .count Family.attempts [("outcome", "success"), ("operation", "get_route")],
    .count Family.attempts [("operation", "get_route")]]

/-- Both orders are counted, and what misses a label is dropped; an operation that emits nothing adds nothing to what
its run emits, and a breaker that opens and is reset emits accepted samples. -/
theorem both_orders_counted :
    (∃ child, ((ofSamples mixedSamples).childrenOf Family.attempts).get? ["get_route", "success"] = some child ∧
      child.count = 2 ∧ child.sum = counterTotal
        (labelled mixedSamples [("outcome", "success"), ("operation", "get_route")]) Family.attempts
        [("outcome", "success"), ("operation", "get_route")]) ∧
    (ofSamples mixedSamples).render = (ofSamples (mixedSamples.take 2)).render ∧
    (Retry.run Policy.api .endless "get_route" fun _ => .done (.error (.decode "")) :
      Work (Recorded Unit) (Retry.Run ApiFailure Unit)).Emits (fun s => s.Taken ∨ False) ∧
    (∃ c : Crowd Unit String Unit, Relation.ReflTransGen Crowd.Goes ⟨[], 0, Crowd.newWorld⟩ c ∧
      c.world.samples.length = 5 ∧ Grows Sample.Taken Crowd.newWorld.samples c.world.samples) := by
  have hgenuine : ∀ s ∈ mixedSamples, s.Genuine := by
    intro s hin
    simp only [mixedSamples, List.mem_cons, List.not_mem_nil, or_false] at hin
    rcases hin with rfl | rfl | rfl <;> exact ⟨fun _ => rfl, by decide⟩
  obtain ⟨hagrees, hdropped, hretry, -, hcrowd, -⟩ := exposition_agrees_with_recording hgenuine
  have hfamily : (⟨Family.attempts, "Attempts made by the retry executor", .counter, ["operation", "outcome"]⟩ :
    MetricFamily) ∈ MetricFamily.all := by decide
  obtain ⟨hattempts, -⟩ := hagrees _ hfamily ["get_route", "success"] rfl
    [("outcome", "success"), ("operation", "get_route")] (by decide)
  have hrecorded : (samplesOf (labelled mixedSamples [("outcome", "success"), ("operation", "get_route")])
    .counter Family.attempts).length = 2 := by decide
  refine ⟨?_, ?_, hretry Unit ApiFailure Unit .api .endless "get_route" _ (fun _ => False) fun _ => trivial, ?_⟩
  · obtain ⟨child, hchild⟩ : ∃ child, ((ofSamples mixedSamples).childrenOf Family.attempts).get?
        ["get_route", "success"] = some child := by
      refine Option.ne_none_iff_exists'.1 fun hnone => ?_
      have hcount := hattempts.count
      rw [hnone, hrecorded] at hcount
      cases hcount
    have hcount := hattempts.count
    rw [hchild, hrecorded] at hcount
    exact ⟨child, hchild, hcount, hattempts.total rfl child hchild⟩
  · refine hdropped (mixedSamples.take 2) _ [] rfl ?_
    unfold Sample.Accepted
    decide
  · obtain ⟨c, h, hlength⟩ : ∃ c : Crowd Unit String Unit,
        Relation.ReflTransGen Crowd.Goes ⟨[], 0, Crowd.newWorld⟩ c ∧ c.world.samples.length = 5 := by
      have empty : Relation.ReflTransGen Crowd.Goes _ (⟨[], 0, Crowd.newWorld⟩ : Crowd Unit String Unit) := .refl
      have joined := empty.tail (Crowd.goes_joins .endless Crowd.failing)
      have asking := joined.tail (@Crowd.goes_acts _ _ _ _ _ _ 0 rfl)
      have admitted := asking.tail (@Crowd.goes_acts _ _ _ _ _ _ 0 rfl)
      have opened := admitted.tail (@Crowd.goes_acts _ _ _ _ _ _ 0 rfl)
      exact ⟨_, opened.tail (.steps .resets fun _ _ hi => hi), rfl⟩
    exact ⟨c, h, hlength, hcrowd _ _ _ _ _ c h⟩

end MailReconciler
