/-
Pools, in whatever order the jobs take turns that can go on at one instant. No more jobs are under way than may be, no
value is lost or given twice, and jobs that end in time all do, so that a pool comes to a stop with a job that has not
finished only if the work of that job never goes on.
-/
import MailReconciler.Proofs.Work.Ending
import MailReconciler.Work.Pool
import Mathlib.Data.List.Forall2
import Mathlib.Logic.Relation

namespace MailReconciler

variable {σ α β ι : Type} {now t : Instant}

/-! ## Work that is polled -/

namespace Work

/-- If the work ends, then with such a value, whatever states it meets. -/
def Yields (post : α → Prop) : Work σ α → Prop
  | .done a => post a
  | .act _ next => ∀ now s, (next now s).Yields post
  | .wait _ next => next.Yields post
  | .never => True

theorem yields_of_forall {post : α → Prop} (h : ∀ a, post a) : ∀ w : Work σ α, w.Yields post
  | .done a => h a
  | .act _ next => fun now s => yields_of_forall h (next now s)
  | .wait _ next => yields_of_forall h next
  | .never => trivial

theorem yields_bind {post : β → Prop} {k : α → Work σ β} :
    ∀ {w : Work σ α}, (w.bind k).Yields post ↔ w.Yields fun a => (k a).Yields post
  | .done _ => .rfl
  | .act _ _ => forall_congr' fun _ => forall_congr' fun _ => yields_bind
  | .wait _ next => yields_bind (w := next)
  | .never => .rfl

theorem Yields.poll {post : α → Prop} :
    ∀ {w : Work σ α}, w.Yields post → ∀ now s, (w.poll now s).1.Yields post
  | .done _, h, _, _ => h
  | .act change _, h, now, s => (h now s).poll now (change now s)
  | .wait wake next, h, now, s => by
    unfold Work.poll
    split
    · exact Yields.poll (w := next) h now s
    · exact h
  | .never, _, _, _ => trivial

theorem Ends.poll {post : α → Instant → Prop} :
    ∀ {w : Work σ α}, w.Ends post now → ∀ s, (w.poll now s).1.Ends post now
  | .done _, h, _ => h
  | .act change _, h, s => (h s).poll (change now s)
  | .wait wake next, h, s => by
    unfold Work.poll
    split
    · next hle =>
      have hnext : next.Ends post (max now wake) := h
      rw [Nat.max_eq_left hle] at hnext
      exact hnext.poll s
    · exact h
  | .never, h, _ => h

/-- Work that cannot go on before an instant. -/
def Rests (now : Instant) : Work σ α → Prop
  | .wait wake _ => now ≤ wake
  | .never => True
  | _ => False

theorem rests_poll : ∀ (w : Work σ α) (now : Instant) (s : σ),
    (∃ a, (w.poll now s).1 = .done a) ∨ (w.poll now s).1.Rests now
  | .done a, _, _ => .inl ⟨a, rfl⟩
  | .act change next, now, s => rests_poll (next now s) now (change now s)
  | .wait wake next, now, s => by
    unfold Work.poll
    split
    · exact rests_poll next now s
    · next hlt => exact .inr (Nat.le_of_not_le hlt)
  | .never, _, _ => .inr trivial

/-- The end of a wait lies no later than some end of the work behind it. -/
theorem Ends.exists_le {post : α → Instant → Prop} {w : Work σ α} (h : w.Ends post now) (s : σ) :
    ∃ a t, post a t ∧ now ≤ t := by
  obtain ⟨a, t, s', -, hle, hpost⟩ := h.le.run s
  exact ⟨a, t, hpost, hle⟩

end Work

/-! ## Jobs -/

namespace Job

variable {job job' : Job σ α} {s s' : σ} {w : Work σ α}

def Yields (post : α → Prop) : Job σ α → Prop
  | .queued w | .running w => w.Yields post
  | .finished a _ => post a

def Rests (now : Instant) : Job σ α → Prop
  | .running w => w.Rests now
  | .queued _ | .finished .. => True

/-- The job has finished at such an instant, or does so if it begins at one. -/
def EndsIn (ok : Instant → Prop) (now : Instant) : Job σ α → Prop
  | .queued w => ∀ t, ok t → w.Ends (fun _ t => ok t) t
  | .running w => w.Ends (fun _ t => ok t) now
  | .finished _ t => ok t

/-- A job that goes on has not begun, or has waited long enough. -/
theorem advance?_cases (h : job.advance? t s = some (job', s')) :
    ∃ w, (job = .queued w ∨ ∃ wake, wake ≤ t ∧ job = .running (.wait wake w)) ∧
      job' = afterPoll t (w.poll t s).1 := by
  cases job with
  | queued w =>
    cases h
    exact ⟨w, .inl rfl, rfl⟩
  | running w =>
    cases w with
    | wait wake next =>
      by_cases hle : wake ≤ t
      · simp only [advance?, if_pos hle] at h
        cases h
        exact ⟨next, .inr ⟨wake, hle, rfl⟩, rfl⟩
      · simp only [advance?, if_neg hle] at h
        cases h
    | _ => cases h
  | finished => cases h

/-- A job that is due goes on. -/
theorem exists_advance? {free : Bool} (h : job.due? free now = some t) (s : σ) :
    ∃ job' s', job.advance? t s = some (job', s') := by
  cases job with
  | queued w => exact ⟨_, _, rfl⟩
  | running w =>
    obtain ⟨wake, hwake, rfl⟩ := Option.map_eq_some_iff.1 h
    cases w with
    | wait wake' next =>
      cases hwake
      exact ⟨_, _, if_pos (Nat.le_max_right ..)⟩
    | _ => cases hwake
  | finished => cases h

theorem Yields.advance? {post : α → Prop} (hjob : job.Yields post) (h : job.advance? t s = some (job', s')) :
    job'.Yields post := by
  obtain ⟨w, hw, rfl⟩ := advance?_cases h
  have hpoll : (w.poll t s).1.Yields post := by
    rcases hw with rfl | ⟨wake, -, rfl⟩
    · exact Work.Yields.poll hjob t s
    · exact Work.Yields.poll (w := w) hjob t s
  cases hv : (w.poll t s).1 with
  | _ =>
    rw [hv] at hpoll
    exact hpoll

theorem rests_afterPoll (w : Work σ α) (t : Instant) (s : σ) : (afterPoll t (w.poll t s).1).Rests t := by
  rcases Work.rests_poll w t s with ⟨a, hdone⟩ | hrests
  · rw [hdone]
    trivial
  · cases hv : (w.poll t s).1 with
    | done a => trivial
    | _ =>
      rw [hv] at hrests
      exact hrests

theorem endsIn_afterPoll {ok : Instant → Prop} (h : w.Ends (fun _ t => ok t) t) (s : σ) :
    (afterPoll t (w.poll t s).1).EndsIn ok t := by
  have hpoll := h.poll s
  cases hv : (w.poll t s).1 with
  | _ =>
    rw [hv] at hpoll
    exact hpoll

end Job

/-! ## Pools -/

namespace Pool

variable {limit : Nat} {p q : Pool σ α}

theorem earliest_eq_none {l : List (Option Instant)} (h : earliest l = none) : ∀ o ∈ l, o = none := by
  induction l with
  | nil => exact fun o ho => by cases ho
  | cons first rest ih =>
    cases first with
    | none =>
      have hrest := ih (Option.map_eq_none_iff.1 h)
      intro o ho
      rcases List.mem_cons.1 ho with rfl | ho
      · rfl
      · exact hrest o ho
    | some t =>
      unfold earliest at h
      split at h
      · cases h
      · split at h <;> cases h

theorem earliest_eq_some {l : List (Option Instant)} {i : Nat} (h : earliest l = some (i, t)) :
    l[i]? = some (some t) ∧ ∀ u, some u ∈ l → t ≤ u := by
  induction l generalizing i t with
  | nil => cases h
  | cons first rest ih =>
    cases first with
    | none =>
      obtain ⟨⟨j, u⟩, hrest, heq⟩ := Option.map_eq_some_iff.1 h
      cases heq
      obtain ⟨hj, hfirst⟩ := ih hrest
      exact ⟨hj, fun u hu => hfirst u ((List.mem_cons.1 hu).resolve_left (by simp))⟩
    | some u =>
      unfold earliest at h
      cases hrest : earliest rest with
      | none =>
        rw [hrest] at h
        cases h
        refine ⟨rfl, fun v hv => ?_⟩
        rcases List.mem_cons.1 hv with heq | hv
        · exact Nat.le_of_eq (Option.some.inj heq).symm
        · cases earliest_eq_none hrest _ hv
      | some later =>
        obtain ⟨j, v⟩ := later
        obtain ⟨hj, hfirst⟩ := ih hrest
        rw [hrest] at h
        dsimp only at h
        split at h
        · next hlt =>
          cases h
          refine ⟨hj, fun x hx => ?_⟩
          rcases List.mem_cons.1 hx with heq | hx
          · cases heq
            exact Nat.le_of_lt hlt
          · exact hfirst x hx
        · next hge =>
          cases h
          refine ⟨rfl, fun x hx => ?_⟩
          rcases List.mem_cons.1 hx with heq | hx
          · exact Nat.le_of_eq (Option.some.inj heq).symm
          · exact Nat.le_trans (Nat.le_of_not_lt hge) (hfirst x hx)

/-- When a job of the pool can go on. -/
def due? (limit : Nat) (p : Pool σ α) (job : Job σ α) : Option Instant := job.due? (p.underWay < limit) p.now

/-- A job begins at once, and only where there is room. -/
theorem of_due?_queued {w : Work σ α} (h : p.due? limit (.queued w) = some t) : p.underWay < limit ∧ t = p.now := by
  unfold due? at h
  by_cases hroom : p.underWay < limit
  · rw [decide_eq_true hroom] at h
    cases h
    exact ⟨hroom, rfl⟩
  · rw [decide_eq_false hroom] at h
    cases h

/-- One of the jobs that can go on first does so. -/
inductive Goes (limit : Nat) (p : Pool σ α) : Pool σ α → Prop
  | job {i : Nat} {job job' : Job σ α} {t : Instant} {s : σ} (hjob : p.jobs[i]? = some job)
    (hdue : p.due? limit job = some t) (hfirst : ∀ other ∈ p.jobs, ∀ u ∈ p.due? limit other, t ≤ u)
    (hgoes : job.advance? t p.state = some (job', s)) : Goes limit p ⟨p.jobs.set i job', t, s⟩

/-- What a pool can come to. -/
abbrev Reaches (limit : Nat) : Pool σ α → Pool σ α → Prop := Relation.ReflTransGen (Goes limit)

/-- No job can go on. -/
def Stopped (limit : Nat) (p : Pool σ α) : Prop := ∀ job ∈ p.jobs, p.due? limit job = none

/-- A job never goes on, and so the pool never has all its values. -/
def Hangs (p : Pool σ α) : Prop := Job.running .never ∈ p.jobs

theorem stopped_of_step? (h : p.step? limit = none) : p.Stopped limit := by
  intro job hmem
  unfold step? at h
  split at h
  · next hnext => exact earliest_eq_none hnext _ (List.mem_map_of_mem hmem)
  · next i t hnext =>
    -- the job that is due first goes on
    obtain ⟨hi, -⟩ := earliest_eq_some hnext
    rw [List.getElem?_map] at hi
    obtain ⟨first, hfirst, hdue⟩ := Option.map_eq_some_iff.1 hi
    obtain ⟨job', s', hgoes⟩ := Job.exists_advance? hdue p.state
    rw [hfirst] at h
    dsimp only at h
    rw [hgoes] at h
    cases h

theorem goes_of_step? (h : p.step? limit = some q) : Goes limit p q := by
  unfold step? at h
  split at h
  · cases h
  · next i t hnext =>
    obtain ⟨hi, hfirst⟩ := earliest_eq_some hnext
    split at h
    · cases h
    · next job hjob =>
      obtain ⟨⟨job', s⟩, hgoes, rfl⟩ := Option.map_eq_some_iff.1 h
      rw [List.getElem?_map, hjob] at hi
      refine .job hjob (Option.some.inj hi) (fun other hother u hu => hfirst u ?_) hgoes
      exact List.mem_map.2 ⟨other, hother, hu⟩

/-- The first job in the order of the list is one that may go on, so a run is what a pool comes to. -/
theorem reaches_run (limit : Nat) (p : Pool σ α) : Reaches limit p (p.run limit) ∧ (p.run limit).Stopped limit := by
  induction p using Pool.run.induct limit with
  | case1 p h =>
    have hrun : p.run limit = p := by
      rw [Pool.run]
      split
      · rfl
      · next hq => rw [h] at hq; cases hq
    rw [hrun]
    exact ⟨.refl, stopped_of_step? h⟩
  | case2 p q h ih =>
    have hrun : p.run limit = q.run limit := by
      rw [Pool.run]
      split
      · next hq => rw [h] at hq; cases hq
      · next hq => rw [h] at hq; cases hq; rfl
    rw [hrun]
    exact ⟨.head (goes_of_step? h) ih.1, ih.2⟩

/-! ### How many are under way -/

theorem Goes.underWay_le (h : Goes limit p q) (hp : p.underWay ≤ limit) : q.underWay ≤ limit := by
  cases h with
  | @job i job job' t s hjob hdue hfirst hgoes =>
    obtain ⟨hi, rfl⟩ := List.getElem?_eq_some_iff.1 hjob
    obtain ⟨w, hw, -⟩ := Job.advance?_cases hgoes
    have hone : (if job'.isRunning = true then 1 else 0) ≤ 1 := by split <;> decide
    show (p.jobs.set i job').countP Job.isRunning ≤ limit
    rw [List.countP_set hi]
    rcases hw with hw | ⟨wake, -, hw⟩
    · rw [hw] at hdue
      obtain ⟨hroom, -⟩ := of_due?_queued hdue
      unfold underWay at hroom
      omega
    · have hrunning : p.jobs[i].isRunning = true := by rw [hw]; rfl
      have hpos : 0 < p.jobs.countP Job.isRunning := List.countP_pos_iff.2 ⟨_, List.getElem_mem hi, hrunning⟩
      rw [if_pos hrunning]
      unfold underWay at hp
      omega

theorem Reaches.underWay_le (h : Reaches limit p q) (hp : p.underWay ≤ limit) : q.underWay ≤ limit := by
  induction h with
  | refl => exact hp
  | tail _ hgoes ih => exact hgoes.underWay_le ih

/-! ### Values -/

/-- The jobs of a pool, label by label, yield only values of their labels. -/
abbrev Yields (post : ι → α → Prop) (labels : List ι) (p : Pool σ α) : Prop :=
  List.Forall₂ (fun label job => Job.Yields (post label) job) labels p.jobs

theorem forall₂_set {R : ι → α → Prop} {labels : List ι} {l : List α} {a a' : α} (h : List.Forall₂ R labels l) {i : Nat}
    (hi : l[i]? = some a) (hset : ∀ label, R label a → R label a') : List.Forall₂ R labels (l.set i a') := by
  induction h generalizing i with
  | nil => cases hi
  | cons hhead htail ih =>
    cases i with
    | zero =>
      cases hi
      exact .cons (hset _ hhead) htail
    | succ i => exact .cons hhead (ih hi)

theorem Goes.yields {post : ι → α → Prop} {labels : List ι} (h : Goes limit p q) (hp : p.Yields post labels) :
    q.Yields post labels := by
  cases h with
  | job hjob _ _ hgoes => exact forall₂_set hp hjob fun _ hyields => hyields.advance? hgoes

theorem Reaches.yields {post : ι → α → Prop} {labels : List ι} (h : Reaches limit p q) (hp : p.Yields post labels) :
    q.Yields post labels := by
  induction h with
  | refl => exact hp
  | tail _ hgoes ih => exact hgoes.yields ih

theorem Yields.sublist_results {post : ι → α → Prop} {label : α → ι} (hlabel : ∀ i a, post i a → label a = i)
    {labels : List ι} (h : p.Yields post labels) : (p.results.map fun r => label r.1).Sublist labels := by
  obtain ⟨jobs, now, s⟩ := p
  unfold Yields at h
  unfold results
  dsimp only at h ⊢
  induction h with
  | nil => exact List.Sublist.refl _
  | @cons i job labels jobs hjob _ ih =>
    cases job with
    | finished a t =>
      have hi := hlabel i a hjob
      simpa [hi] using ih
    | _ => exact ih.cons i

theorem completed_perm (p : Pool σ α) : p.completed.Perm (p.results.map (·.1)) :=
  (List.mergeSort_perm p.results _).map _

/-- What is told so far is told once, and what has not been told belongs to other labels. -/
theorem Yields.exists_told {post : ι → α → Prop} {label : α → ι} (hlabel : ∀ i a, post i a → label a = i)
    {labels : List ι} (h : p.Yields post labels) : ∃ told, told.Sublist labels ∧ (p.completed.map label).Perm told := by
  refine ⟨_, h.sublist_results hlabel, ?_⟩
  have hperm := p.completed_perm.map label
  rwa [List.map_map] at hperm

theorem Yields.exists_of_mem {post : ι → α → Prop} {labels : List ι} (h : p.Yields post labels) {a : α}
    (ha : a ∈ p.completed) : ∃ i, post i a := by
  have hlabel : ∀ {labels : List ι} {jobs : List (Job σ α)},
      List.Forall₂ (fun i job => Job.Yields (post i) job) labels jobs → ∀ job ∈ jobs, ∃ i, job.Yields (post i) := by
    intro labels jobs h
    induction h with
    | nil => exact fun job hmem => by cases hmem
    | @cons i job labels jobs hjob _ ih =>
      intro other hmem
      rcases List.mem_cons.1 hmem with rfl | hmem
      · exact ⟨i, hjob⟩
      · exact ih other hmem
  obtain ⟨r, hr, rfl⟩ := List.mem_map.1 (p.completed_perm.mem_iff.1 ha)
  obtain ⟨job, hmem, heq⟩ := List.mem_filterMap.1 hr
  obtain ⟨i, hi⟩ := hlabel h job hmem
  cases job with
  | finished a t =>
    cases heq
    exact ⟨i, hi⟩
  | _ => cases heq

/-! ### The end -/

/-- No job that is under way could have gone on before. -/
def Rests (p : Pool σ α) : Prop := ∀ job ∈ p.jobs, job.Rests p.now

/-- A job that waits is not passed over by the others. -/
theorem le_wake {wake : Instant} {next : Work σ α} (hrests : p.Rests)
    (hmem : Job.running (.wait wake next) ∈ p.jobs)
    (hfirst : ∀ other ∈ p.jobs, ∀ u ∈ p.due? limit other, t ≤ u) : t ≤ wake := by
  have hnow : p.now ≤ wake := hrests _ hmem
  have hle := hfirst _ hmem (max p.now wake) rfl
  rwa [Nat.max_eq_right hnow] at hle

theorem Goes.rests (h : Goes limit p q) (hp : p.Rests) : q.Rests := by
  cases h with
  | job hjob hdue hfirst hgoes =>
    intro other hmem
    rcases List.mem_or_eq_of_mem_set hmem with hmem | rfl
    · have hrests := hp other hmem
      cases other with
      | running w =>
        cases w with
        | wait wake next => exact le_wake hp hmem hfirst
        | _ => exact hrests
      | _ => trivial
    · obtain ⟨w, -, rfl⟩ := Job.advance?_cases hgoes
      exact Job.rests_afterPoll w _ p.state

theorem Reaches.rests (h : Reaches limit p q) (hp : p.Rests) : q.Rests := by
  induction h with
  | refl => exact hp
  | tail _ hgoes ih => exact hgoes.rests ih

/-- A pool that has stopped has finished its jobs, unless one of them hangs. -/
theorem finished_of_stopped (hlimit : 0 < limit) (hstopped : p.Stopped limit) (hrests : p.Rests) (hhangs : ¬p.Hangs) :
    ∀ job ∈ p.jobs, ∃ a t, job = .finished a t := by
  have hrunning : ∀ w, Job.running w ∉ p.jobs := by
    intro w hmem
    have hw := hrests _ hmem
    cases w with
    | wait wake next => cases hstopped _ hmem
    | never => exact hhangs hmem
    | _ => exact hw
  have hnone : p.underWay = 0 := by
    refine List.countP_eq_zero.2 fun job hmem => ?_
    cases job with
    | running w => exact absurd hmem (hrunning w)
    | _ => simp [Job.isRunning]
  intro job hmem
  cases job with
  | queued w =>
    have hdue := hstopped _ hmem
    rw [due?, hnone, decide_eq_true hlimit] at hdue
    cases hdue
  | running w => exact absurd hmem (hrunning w)
  | finished a t => exact ⟨a, t, rfl⟩

theorem length_results (h : ∀ job ∈ p.jobs, ∃ a t, job = .finished a t) : p.results.length = p.jobs.length := by
  obtain ⟨jobs, now, s⟩ := p
  unfold results
  dsimp only at h ⊢
  induction jobs with
  | nil => rfl
  | cons job jobs ih =>
    obtain ⟨a, t, rfl⟩ := h job List.mem_cons_self
    simpa using ih fun job hmem => h job (List.mem_cons_of_mem _ hmem)

theorem Yields.perm_of_stopped {post : ι → α → Prop} {label : α → ι} (hlabel : ∀ i a, post i a → label a = i)
    {labels : List ι} (h : p.Yields post labels) (hlimit : 0 < limit) (hstopped : p.Stopped limit) (hrests : p.Rests)
    (hhangs : ¬p.Hangs) : (p.completed.map label).Perm labels := by
  have hlength : (p.results.map fun r => label r.1).length = labels.length := by
    rw [List.length_map, length_results (finished_of_stopped hlimit hstopped hrests hhangs)]
    exact (List.Forall₂.length_eq h).symm
  have hperm := p.completed_perm.map label
  rw [List.map_map] at hperm
  exact hperm.trans (List.Perm.of_eq ((h.sublist_results hlabel).eq_of_length hlength))

/-! ### Jobs that end in time -/

/-- Every job has ended, or ends, at an instant of some kind. -/
structure InTime (ok : Instant → Prop) (p : Pool σ α) : Prop where
  now : ok p.now
  rests : p.Rests
  ends : ∀ job ∈ p.jobs, job.EndsIn ok p.now

theorem Goes.inTime {ok : Instant → Prop} (hok : ∀ t u, ok t → u ≤ t → ok u) (h : Goes limit p q) (hp : p.InTime ok) :
    q.InTime ok := by
  have hrests := h.rests hp.rests
  cases h with
  | @job i job job' t s hjob hdue hfirst hgoes =>
    have hmem := List.mem_of_getElem? hjob
    obtain ⟨w, hw, rfl⟩ := Job.advance?_cases hgoes
    -- the job goes on where it may, with work that ends
    have hwork : ok t ∧ w.Ends (fun _ t => ok t) t := by
      have hends := hp.ends _ hmem
      rcases hw with rfl | ⟨wake, -, rfl⟩
      · obtain ⟨-, rfl⟩ := of_due?_queued hdue
        exact ⟨hp.now, hends _ hp.now⟩
      · obtain rfl : max p.now wake = t := Option.some.inj hdue
        have hends : w.Ends (fun _ t => ok t) (max p.now wake) := hends
        obtain ⟨a, u, hu, hle⟩ := hends.exists_le p.state
        exact ⟨hok u _ hu hle, hends⟩
    refine ⟨hwork.1, hrests, fun other hother => ?_⟩
    rcases List.mem_or_eq_of_mem_set hother with hother | rfl
    · have hends := hp.ends other hother
      cases other with
      | running v =>
        have hv := hp.rests _ hother
        cases v with
        | wait wake next =>
          have hends : next.Ends (fun _ t => ok t) (max p.now wake) := hends
          rw [Nat.max_eq_right hv] at hends
          show next.Ends (fun _ t => ok t) (max t wake)
          rwa [Nat.max_eq_right (le_wake hp.rests hother hfirst)]
        | never => exact hends
        | _ => exact hv.elim
      | _ => exact hends
    · exact Job.endsIn_afterPoll hwork.2 p.state

theorem Reaches.inTime {ok : Instant → Prop} (hok : ∀ t u, ok t → u ≤ t → ok u) (h : Reaches limit p q)
    (hp : p.InTime ok) : q.InTime ok := by
  induction h with
  | refl => exact hp
  | tail _ hgoes ih => exact hgoes.inTime hok ih

theorem InTime.not_hangs {ok : Instant → Prop} (h : p.InTime ok) : ¬p.Hangs := fun hnever => h.ends _ hnever

theorem InTime.ok_of_mem_results {ok : Instant → Prop} (h : p.InTime ok) : ∀ r ∈ p.results, ok r.2 := by
  intro r hr
  obtain ⟨job, hmem, heq⟩ := List.mem_filterMap.1 hr
  cases job with
  | finished a t =>
    cases heq
    exact h.ends _ hmem
  | _ => cases heq

/-! ### Pools that have not begun -/

variable {works : List (Work σ α)} {s : σ}

theorem underWay_ofWork (works : List (Work σ α)) (now : Instant) (s : σ) : (ofWork works now s).underWay = 0 := by
  refine List.countP_eq_zero.2 fun job hmem => ?_
  obtain ⟨w, -, rfl⟩ := List.mem_map.1 hmem
  simp [Job.isRunning]

theorem rests_ofWork (works : List (Work σ α)) (now : Instant) (s : σ) : (ofWork works now s).Rests := by
  intro job hmem
  obtain ⟨w, -, rfl⟩ := List.mem_map.1 hmem
  trivial

theorem inTime_ofWork {ok : Instant → Prop} (hnow : ok now)
    (hworks : ∀ w ∈ works, ∀ t, ok t → w.Ends (fun _ t => ok t) t) : (ofWork works now s).InTime ok := by
  refine ⟨hnow, rests_ofWork works now s, fun job hmem => ?_⟩
  obtain ⟨w, hw, rfl⟩ := List.mem_map.1 hmem
  exact hworks w hw

theorem yields_ofWork {post : ι → α → Prop} {labels : List ι} {work : ι → Work σ α}
    (hwork : ∀ i ∈ labels, (work i).Yields (post i)) : (ofWork (labels.map work) now s).Yields post labels := by
  unfold Yields ofWork
  rw [List.map_map, List.forall₂_map_right_iff, List.forall₂_same]
  exact hwork

end Pool
end MailReconciler
