/-
Pools of jobs that need no time. When each job, begun in the state that the one before it has left, ends at the instant
at which it begins, then the pool is a plain sequence: the jobs are done one after the other in the order of the list,
whatever number of them may be under way at a time, and so they are finished in that order.
-/
import MailReconciler.Proofs.Work.Running
import MailReconciler.Work.Pool

namespace MailReconciler

variable {σ α : Type}

/-! ## Work that needs no time -/

namespace Work

variable {now t : Instant} {s s' : σ} {a : α}

/-- Work that ends at the instant at which it begins is done after one poll. -/
theorem poll_of_run :
    ∀ {w : Work σ α} {now : Instant} {s : σ}, w.run now s = some (a, now, s') → w.poll now s = (.done a, s')
  | .done _, _, _, h => by cases h; rfl
  | .act _ next, now, s, h => poll_of_run (w := next now s) h
  | .wait wake next, now, s, h => by
    -- the end lies not before the wake-up, so there is nothing to wait for
    have hle : wake ≤ now := Nat.le_trans (Nat.le_max_right ..) (le_of_run (w := next) h)
    have hrun : next.run now s = some (a, now, s') := by
      simp only [run, Nat.max_eq_left hle] at h
      exact h
    simp only [poll, hle, if_true]
    exact poll_of_run hrun
  | .never, _, _, h => by cases h

/-- Pieces of work that are done one after the other at one instant: their values, and the state after the last. -/
inductive Turns (now : Instant) : List (Work σ α) → σ → List α → σ → Prop
  | nil (s : σ) : Turns now [] s [] s
  | cons {w : Work σ α} {rest : List (Work σ α)} {s s' s'' : σ} {a : α} {values : List α} :
      w.run now s = some (a, now, s') → Turns now rest s' values s'' → Turns now (w :: rest) s (a :: values) s''

end Work

/-! ## Pools -/

namespace Pool

variable {now : Instant} {limit : Nat}

/-- Jobs that can all go on now, if at all, go on now. -/
theorem eq_of_earliest {l : List (Option Instant)} (hl : ∀ t ∈ l, t = none ∨ t = some now) {i : Nat} {u : Instant}
    (h : earliest l = some (i, u)) : u = now := by
  induction l generalizing i u with
  | nil => cases h
  | cons first rest ih =>
    have ih := fun {i u} => ih (fun t ht => hl t (List.mem_cons_of_mem _ ht)) (i := i) (u := u)
    rcases hl first List.mem_cons_self with rfl | rfl
    · obtain ⟨⟨j, v⟩, hj, he⟩ := Option.map_eq_some_iff.1 h
      cases he
      exact ih hj
    · unfold earliest at h
      cases hr : earliest rest with
      | none => rw [hr] at h; cases h; rfl
      | some later =>
        obtain rfl := ih hr
        rw [hr] at h
        simp only [Nat.lt_irrefl, if_false] at h
        cases h
        rfl

/-- Of several jobs that can go on now the first one does. -/
theorem earliest_cons_now {rest : List (Option Instant)} (hrest : ∀ t ∈ rest, t = none ∨ t = some now) :
    earliest (some now :: rest) = some (0, now) := by
  unfold earliest
  cases hr : earliest rest with
  | none => rfl
  | some later =>
    obtain rfl := eq_of_earliest hrest hr
    simp only [Nat.lt_irrefl, if_false]

theorem earliest_of_finished (finished : Nat) (rest : List (Option Instant))
    (hrest : ∀ t ∈ rest, t = none ∨ t = some now) :
    earliest (List.replicate finished none ++ some now :: rest) = some (finished, now) := by
  induction finished with
  | zero => exact earliest_cons_now hrest
  | succ finished ih =>
    show (earliest (List.replicate finished none ++ some now :: rest)).map _ = _
    rw [ih]
    rfl

theorem earliest_replicate_none (n : Nat) : earliest (List.replicate n none) = none := by
  induction n with
  | zero => rfl
  | succ n ih =>
    show (earliest (List.replicate n none)).map _ = none
    rw [ih]
    rfl

/-- A pool in which some jobs have finished and the others have not begun. -/
def between (now : Instant) (values : List α) (works : List (Work σ α)) (s : σ) : Pool σ α :=
  ⟨values.map (.finished · now) ++ works.map .queued, now, s⟩

theorem underWay_between (now : Instant) (values : List α) (works : List (Work σ α)) (s : σ) :
    (between now values works s).underWay = 0 := by
  unfold underWay between
  rw [List.countP_eq_zero]
  intro job hjob
  rcases List.mem_append.1 hjob with h | h
  · obtain ⟨value, -, rfl⟩ := List.mem_map.1 h
    simp [Job.isRunning]
  · obtain ⟨w, -, rfl⟩ := List.mem_map.1 h
    simp [Job.isRunning]

theorem step?_between (hlimit : 0 < limit) {w : Work σ α} {s s' : σ} {a : α} (h : w.run now s = some (a, now, s'))
    (values : List α) (rest : List (Work σ α)) :
    (between now values (w :: rest) s).step? limit = some (between now (values ++ [a]) rest s') := by
  have hnext : (between now values (w :: rest) s).next? limit = some (values.length, now) := by
    -- no job is under way, so the limit lets the next one begin
    unfold next?
    rw [underWay_between, decide_eq_true hlimit]
    rw [← earliest_of_finished values.length (rest.map fun _ => some now) (by simp)]
    simp [between, Job.due?, Function.comp_def, List.map_const']
  have hjob : (between now values (w :: rest) s).jobs[values.length]? = some (.queued w) := by
    simp [between]
  have hadvance : (Job.queued w).advance? now s = some (.finished a now, s') := by
    simp only [Job.advance?, Work.poll_of_run h, Job.afterPoll]
  unfold step?
  rw [hnext]
  simp only [hjob]
  show ((Job.queued w).advance? now s).map _ = _
  rw [hadvance]
  simp [between]

theorem step?_of_finished (limit : Nat) (now : Instant) (values : List α) (s : σ) :
    (between now values ([] : List (Work σ α)) s).step? limit = none := by
  have hnext : (between now values ([] : List (Work σ α)) s).next? limit = none := by
    unfold next?
    rw [← earliest_replicate_none values.length]
    simp [between, Job.due?, Function.comp_def, List.map_const']
  unfold step?
  rw [hnext]

theorem run_between (hlimit : 0 < limit) {works : List (Work σ α)} {s s' : σ} {values : List α}
    (h : Work.Turns now works s values s') (earlier : List α) :
    (between now earlier works s).run limit = between now (earlier ++ values) [] s' := by
  induction h generalizing earlier with
  | nil s =>
    rw [Pool.run, List.append_nil]
    split
    · rfl
    · rename_i q hq
      rw [step?_of_finished] at hq
      cases hq
  | cons hrun _ ih =>
    rw [Pool.run]
    split
    · rename_i hq
      rw [step?_between hlimit hrun] at hq
      cases hq
    · rename_i q hq
      rw [step?_between hlimit hrun] at hq
      cases hq
      rw [ih, List.append_assoc]
      rfl

theorem completed_between (now : Instant) (values : List α) (s : σ) :
    (between now values ([] : List (Work σ α)) s).completed = values := by
  have hresults : (between now values ([] : List (Work σ α)) s).results = values.map (·, now) := by
    unfold results between
    rw [List.map_nil, List.append_nil, List.filterMap_map]
    exact congrFun List.filterMap_eq_map values
  unfold completed
  rw [hresults, List.mergeSort_of_pairwise]
  · simp [Function.comp_def]
  · exact List.pairwise_map.2 (List.pairwise_of_forall fun _ _ => by simp)

/-- A pool of jobs that need no time does them in turn. -/
theorem run_ofWork (hlimit : 0 < limit) {works : List (Work σ α)} {s s' : σ} {values : List α}
    (h : Work.Turns now works s values s') :
    ((ofWork works now s).run limit).completed = values ∧ ((ofWork works now s).run limit).now = now ∧
      ((ofWork works now s).run limit).state = s' := by
  have hrun := run_between hlimit h []
  have hbegin : ofWork works now s = between now [] works s := rfl
  rw [hbegin, hrun]
  exact ⟨completed_between now values s', rfl, rfl⟩

end Pool
end MailReconciler
