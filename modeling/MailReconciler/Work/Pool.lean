/-
Pools of work over one state. At each instant the work that can go on does so in the order of the list; then time jumps
to the next instant at which something can. No more than a given number of jobs are under way at a time, and the next
one begins when one has finished.
-/
import MailReconciler.Work.Order

namespace MailReconciler

/-- A piece of work in a pool. -/
inductive Job (σ α : Type) where
  | queued (work : Work σ α)
  | running (work : Work σ α)
  | finished (value : α) (at' : Instant)

namespace Job

variable {σ α : Type}

/-- Whether a job has begun and not finished. -/
def isRunning : Job σ α → Bool
  | .running _ => true
  | _ => false

/-- A job after its work was polled at an instant. -/
def afterPoll (now : Instant) : Work σ α → Job σ α
  | .done a => .finished a now
  | w => .running w

/-- When a job can go on; one that has not begun needs a free place. -/
def due? (free : Bool) (now : Instant) : Job σ α → Option Instant
  | .queued _ => if free then some now else none
  | .running w => w.wakesAt.map (max now)
  | .finished .. => none

/-- Lets a job go on at an instant, if it can. -/
def advance? (now : Instant) (s : σ) : Job σ α → Option (Job σ α × σ)
  | .queued w => some (afterPoll now (w.poll now s).1, (w.poll now s).2)
  | .running (.wait wake next) =>
    if wake ≤ now then some (afterPoll now (next.poll now s).1, (next.poll now s).2) else none
  | _ => none

/-! ## Progress -/

/-- How much of a job is left: its stage, and its work. -/
def left : Job σ α → Nat × Work σ α
  | .queued w => (2, w)
  | .running w => (1, w)
  | .finished _ _ => (0, .never)

/-- A job with less left. -/
def Smaller : Job σ α → Job σ α → Prop := InvImage (Prod.Lex (· < ·) Work.Later) left

theorem smaller_wf : WellFounded (Smaller (σ := σ) (α := α)) :=
  InvImage.wf _ (Prod.lex Nat.lt_wfRel ⟨_, Work.Follows.wf.transGen⟩).wf

theorem afterPoll_smaller_queued (now : Instant) (v w : Work σ α) : Smaller (afterPoll now v) (.queued w) := by
  cases v <;> exact Prod.Lex.left _ _ (by decide)

theorem afterPoll_smaller_running {now : Instant} {v w : Work σ α} (h : Work.Later v w) :
    Smaller (afterPoll now v) (.running w) := by
  cases v
  case done => exact Prod.Lex.left _ _ (by decide)
  all_goals exact Prod.Lex.right _ h

theorem smaller_of_advance? {now : Instant} {s s' : σ} {j k : Job σ α} (h : j.advance? now s = some (k, s')) :
    Smaller k j := by
  match j, h with
  | .queued w, h =>
    simp only [advance?, Option.some.injEq, Prod.mk.injEq] at h
    exact h.1 ▸ afterPoll_smaller_queued now _ w
  | .running (.wait wake next), h =>
    by_cases hw : wake ≤ now
    · simp only [advance?, hw, if_true, Option.some.injEq, Prod.mk.injEq] at h
      refine h.1 ▸ afterPoll_smaller_running ?_
      rcases next.poll_later now s with he | hl
      · rw [he]; exact .single (.wait wake next)
      · exact .tail hl (.wait wake next)
    · simp [advance?, hw] at h
  | .running (.done _), h | .running (.act _ _), h | .running .never, h | .finished _ _, h =>
    simp [advance?] at h

end Job

/-- Jobs over one state at an instant. -/
structure Pool (σ α : Type) where
  jobs : List (Job σ α)
  now : Instant
  state : σ

namespace Pool

variable {σ α : Type}

/-- A pool of work that has not begun. -/
def ofWork (work : List (Work σ α)) (now : Instant) (s : σ) : Pool σ α := ⟨work.map .queued, now, s⟩

/-- How many jobs are under way. -/
def underWay (p : Pool σ α) : Nat := p.jobs.countP Job.isRunning

/-- The earliest of some instants with its position, which is the first of several. -/
def earliest : List (Option Instant) → Option (Nat × Instant)
  | [] => none
  | none :: rest => (earliest rest).map fun (i, t) => (i + 1, t)
  | some t :: rest =>
    match earliest rest with
    | none => some (0, t)
    | some (i, u) => if u < t then some (i + 1, u) else some (0, t)

/-- The job that goes on next, and when. -/
def next? (limit : Nat) (p : Pool σ α) : Option (Nat × Instant) :=
  earliest (p.jobs.map (Job.due? (p.underWay < limit) p.now))

/-- Lets the next job go on; none if no job can. -/
def step? (limit : Nat) (p : Pool σ α) : Option (Pool σ α) :=
  match p.next? limit with
  | none => none
  | some (i, t) =>
    match p.jobs[i]? with
    | none => none
    | some job => (job.advance? t p.state).map fun (job, s) => ⟨p.jobs.set i job, t, s⟩

theorem shrinks_of_step? {limit : Nat} {p q : Pool σ α} (h : p.step? limit = some q) :
    ShrinksAt Job.Smaller q.jobs p.jobs := by
  unfold step? at h
  split at h
  · cases h
  · split at h
    · cases h
    · rename_i hj
      obtain ⟨⟨k, s⟩, ha, rfl⟩ := Option.map_eq_some_iff.1 h
      exact ShrinksAt.set hj (Job.smaller_of_advance? ha)

instance : WellFoundedRelation (List (Job σ α)) := ⟨ShrinksAt Job.Smaller, ShrinksAt.wf Job.smaller_wf⟩

/-- Runs a pool until no job can go on. -/
def run (limit : Nat) (p : Pool σ α) : Pool σ α :=
  match _h : p.step? limit with
  | none => p
  | some q => q.run limit
termination_by p.jobs
decreasing_by exact shrinks_of_step? _h

/-- The values of the finished jobs in the order of the list, with the instants at which they finished. -/
def results (p : Pool σ α) : List (α × Instant) :=
  p.jobs.filterMap fun
    | .finished a t => some (a, t)
    | _ => none

/-- The values of the finished jobs in the order in which they finished. -/
def completed (p : Pool σ α) : List α := (p.results.mergeSort fun a b => a.2 ≤ b.2).map (·.1)

end Pool
end MailReconciler
