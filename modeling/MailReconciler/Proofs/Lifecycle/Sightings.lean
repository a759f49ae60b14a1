/-
Reports of what resources are sighted. Each resource is reported once, in one of three shapes, whatever the API, the
breaker and the order do in which observations end; no more observations are under way than may be; and under a scope
that ends the report is complete by then.
-/
import MailReconciler.Proofs.Client.Deadline
import MailReconciler.Proofs.Client.Spending
import MailReconciler.Proofs.Lifecycle.Calls
import MailReconciler.Proofs.Work.Pooling
import MailReconciler.Provider.Sighting

namespace MailReconciler

variable {ρ α : Type} {scope : Scope} {now stop limit : Instant} {kind : ResourceKind} {domain : Option String}
  {id : String}

/-! ## Lines -/

/-- What a line of a report tells of a resource. -/
inductive LineShape where
  | present
  | absent
  | failed

/-- Only what exists has a state, and only a failure has a text. -/
def LineShape.Fits : LineShape → Json → Prop
  | .present, line => line.member? "exists" = some (.bool true) ∧
    (∃ members, line.member? "observed" = some (.object members)) ∧ line.member? "error" = none
  | .absent, line => line.member? "exists" = some (.bool false) ∧ line.member? "observed" = none ∧
    line.member? "error" = none
  | .failed, line => line.member? "exists" = some (.bool false) ∧ line.member? "observed" = none ∧
    ∃ text, line.member? "error" = some (.string text)

theorem LineShape.Fits.unique {shape shape' : LineShape} {line : Json} (h : shape.Fits line) (h' : shape'.Fits line) :
    shape' = shape := by
  cases shape <;> cases shape' <;> simp_all [Fits]

namespace Sighting

/-- A sighting of one resource, whose state is written as an object. -/
structure IsOf (kind : ResourceKind) (id : String) (s : Sighting) : Prop where
  kind_eq : s.kind = kind
  id_eq : s.id = id
  isObject : ∀ state, s.result = .ok (some state) → ∃ members, state = .object members

theorem IsOf.existsUnique_fits {s : Sighting} (h : s.IsOf kind id) : ∃! shape : LineShape, shape.Fits s.toJson := by
  obtain ⟨kind, id, result⟩ := s
  have hexists : ∃ shape : LineShape, shape.Fits (toJson ⟨kind, id, result⟩) := by
    cases result with
    | error e => exact ⟨.failed, rfl, rfl, _, rfl⟩
    | ok state =>
      cases state with
      | none => exact ⟨.absent, rfl, rfl, rfl⟩
      | some state =>
        obtain ⟨members, rfl⟩ := h.isObject state rfl
        exact ⟨.present, rfl, ⟨members, rfl⟩, rfl⟩
  obtain ⟨shape, hfits⟩ := hexists
  exact ⟨shape, hfits, fun _ hfits' => hfits.unique hfits'⟩

end Sighting

/-! ## Observations -/

theorem Observed.exists_toJson (state : Observed) : ∃ members, state.toJson = .object members := by
  cases state <;> exact ⟨_, rfl⟩

/-- Every call ends, whatever states it meets. -/
def Service.AlwaysEnds (service : Service ρ) : Prop :=
  ∀ {α : Type} (call : Call α) (now : Instant), (service.perform call).Ends (fun _ _ => True) now

/-- A call is over when its scope is. -/
theorem ends_call_within (client : Client ρ) (call : Call α) (hscope : scope.endsAt = some stop) (hs : stop ≤ limit)
    (hn : now ≤ limit) : (client.call scope call).Ends (fun _ t => t ≤ limit) now := by
  have hguarded : (guarded client.policy scope call.name fun _ => client.service.perform call).Ends
      (fun _ t => t ≤ limit) now := by
    rw [guarded_eq_callFrom, ends_callFrom]
    exact Retry.ends_attemptFrom hscope hs (fun _ _ ht => ends_throughBreaker hscope hs _ ht) _ hn
  exact Work.ends_bind.2 hguarded

namespace Provider

variable (p : Provider ρ)

/-- An observation makes one call, or none. -/
theorem sight_cases (scope : Scope) (kind : ResourceKind) (domain : Option String) (id : String) :
    (∃ e, p.sight scope kind domain id = .done ⟨kind, id, .error e⟩) ∨
    ∃ place : Place, p.sight scope kind domain id = (p.client.call scope place.get).bind fun answer =>
      .done ⟨kind, id, (Lifecycle.found answer).map fun state => state.map place.get.answerJson⟩ := by
  cases hplace : Place.ofId? kind domain id with
  | none =>
    obtain ⟨e, he⟩ := Lifecycle.observeById_of_none p.client scope hplace
    left
    exact ⟨e, by rw [sight, he]; rfl⟩
  | some place =>
    right
    refine ⟨place, ?_⟩
    rw [sight, Lifecycle.observeById_of_some p.client scope hplace]
    exact Work.bind_assoc _ _ _

theorem yields_sight : (p.sight scope kind domain id).Yields (Sighting.IsOf kind id) := by
  rcases p.sight_cases scope kind domain id with ⟨e, he⟩ | ⟨place, hplace⟩
  · rw [he]
    exact ⟨rfl, rfl, fun state h => by cases h⟩
  · rw [hplace]
    refine Work.yields_bind.2 (Work.yields_of_forall (fun answer => ⟨rfl, rfl, fun state h => ?_⟩) _)
    dsimp only at h
    cases hfound : Lifecycle.found answer with
    | error e =>
      rw [hfound] at h
      cases h
    | ok found =>
      rw [hfound] at h
      obtain ⟨answered, -, rfl⟩ := Option.map_eq_some_iff.1 (Except.ok.inj h)
      rw [Place.answerJson_get]
      exact Observed.exists_toJson _

theorem ends_sight {ok : Instant → Prop}
    (hcall : ∀ {α : Type} (call : Call α) t, ok t → (p.client.call scope call).Ends (fun _ t => ok t) t)
    (hnow : ok now) : (p.sight scope kind domain id).Ends (fun _ t => ok t) now := by
  rcases p.sight_cases scope kind domain id with ⟨e, he⟩ | ⟨place, hplace⟩
  · rw [he]
    exact hnow
  · rw [hplace]
    exact Work.ends_bind.2 (hcall place.get now hnow)

/-! ## Reports -/

theorem yields_sightings (ids : List String) (w : World ρ) :
    (p.sightings scope kind domain ids now w).Yields (Sighting.IsOf kind) ids :=
  Pool.yields_ofWork fun _ _ => p.yields_sight

theorem inTime_sightings (ok : Instant → Prop)
    (hcall : ∀ {α : Type} (call : Call α) t, ok t → (p.client.call scope call).Ends (fun _ t => ok t) t) (hnow : ok now)
    (ids : List String) (w : World ρ) : (p.sightings scope kind domain ids now w).InTime ok := by
  refine Pool.inTime_ofWork hnow fun work hwork t ht => ?_
  obtain ⟨id, -, rfl⟩ := List.mem_map.1 hwork
  exact p.ends_sight hcall ht

/-- Whatever resources of a kind are observed, over whatever service and from whatever state of the breaker: however
the observations take turns that can go on at one instant, no more are under way at any time than are set, or one if
none are; no resource is told of twice; what is told of one has exactly one of the three shapes; and under a scope
that ends nothing is told after its end, or after the beginning if it has ended before. When nothing can go on any
more, every resource has been told of, once for each time that it was asked for, unless an observation never ends; and
each ends if the scope does or if every call of the service does. The report is what the observations come to in one
such order. -/
theorem observe_reports_each (scope : Scope) (kind : ResourceKind) (domain : Option String) (ids : List String)
    (start : Instant) (w : World ρ) :
    (∀ q, Pool.Reaches p.concurrency (p.sightings scope kind domain ids start w) q →
      q.underWay ≤ max 1 p.config.controller.maxConcurrency.toNat ∧
      (∃ told, told.Sublist ids ∧ (q.completed.map Sighting.id).Perm told) ∧
      (∀ line ∈ q.completed, line.kind = kind ∧ ∃! shape : LineShape, shape.Fits line.toJson) ∧
      (∀ stop, scope.endsAt = some stop → ∀ r ∈ q.results, r.2 ≤ max start stop) ∧
      (q.Stopped p.concurrency →
        (¬q.Hangs → (q.completed.map Sighting.id).Perm ids) ∧
        (scope.endsAt.isSome ∨ p.client.service.AlwaysEnds → ¬q.Hangs))) ∧
    ∃ q, Pool.Reaches p.concurrency (p.sightings scope kind domain ids start w) q ∧ q.Stopped p.concurrency ∧
      p.observe scope kind domain ids start w = (q.completed, q.now, q.state) := by
  have hlimit : 0 < p.concurrency := Nat.lt_of_lt_of_le Nat.zero_lt_one (Nat.le_max_left ..)
  have hwithin : ∀ {stop}, scope.endsAt = some stop →
      (p.sightings scope kind domain ids start w).InTime (· ≤ max start stop) := by
    intro stop hscope
    refine p.inTime_sightings (· ≤ max start stop) (fun call t ht => ?_) (Nat.le_max_left ..) ids w
    exact ends_call_within p.client call hscope (Nat.le_max_right ..) ht
  have hdown : ∀ {stop} (t u : Instant), t ≤ max start stop → u ≤ t → u ≤ max start stop :=
    fun _ _ ht hu => Nat.le_trans hu ht
  obtain ⟨hrun, hstopped⟩ := Pool.reaches_run p.concurrency (p.sightings scope kind domain ids start w)
  refine ⟨fun q hq => ?_, _, hrun, hstopped, rfl⟩
  have hyields := hq.yields (p.yields_sightings ids w)
  have hlabel : ∀ id (line : Sighting), line.IsOf kind id → line.id = id := fun _ _ h => h.id_eq
  refine ⟨?_, ?_, ?_, ?_, ?_⟩
  · have hnone : (p.sightings scope kind domain ids start w).underWay = 0 := Pool.underWay_ofWork ..
    exact hq.underWay_le (by omega)
  · exact hyields.exists_told hlabel
  · intro line hline
    obtain ⟨id, hof⟩ := hyields.exists_of_mem hline
    exact ⟨hof.kind_eq, hof.existsUnique_fits⟩
  · intro stop hscope
    exact (hq.inTime hdown (hwithin hscope)).ok_of_mem_results
  · intro hstopped
    refine ⟨hyields.perm_of_stopped hlabel hlimit hstopped (hq.rests (Pool.rests_ofWork _ _ _)), fun hends => ?_⟩
    rcases hends with hsome | halways
    · obtain ⟨stop, hscope⟩ := Option.isSome_iff_exists.1 hsome
      exact (hq.inTime hdown (hwithin hscope)).not_hangs
    · have hin : (p.sightings scope kind domain ids start w).InTime fun _ => True :=
        p.inTime_sightings _ (fun call t _ => ends_call (halways call) t) trivial ids w
      exact (hq.inTime (fun _ _ _ _ => trivial) hin).not_hangs

/-- Two observations of one domain, over a service that never answers. -/
theorem hanging_domain_reported_twice :
    let p : Provider Unit := ⟨{}, ⟨⟨fun _ => .never⟩, .api⟩⟩
    let scope : Scope := ⟨none, some 10⟩
    scope.endsAt = some 10 ∧
    ∃ q, Pool.Reaches 10 (p.sightings scope .domain none ["a.io", "a.io"] 3 calmWorld) q ∧ q.Stopped 10 ∧ ¬q.Hangs ∧
      p.observe scope .domain none ["a.io", "a.io"] 3 calmWorld = (q.completed, q.now, q.state) ∧
      q.underWay ≤ 10 ∧ (q.completed.map Sighting.id).Perm ["a.io", "a.io"] ∧ ∀ r ∈ q.results, r.2 ≤ 10 := by
  intro p scope
  have hscope : scope.endsAt = some 10 := rfl
  obtain ⟨hreaches, q, hq, hstopped, hobserve⟩ := observe_reports_each p scope .domain none ["a.io", "a.io"] 3 calmWorld
  obtain ⟨hway, -, -, htime, hend⟩ := hreaches q hq
  obtain ⟨hperm, hends⟩ := hend hstopped
  have hhangs := hends (.inl rfl)
  exact ⟨hscope, q, hq, hstopped, hhangs, hobserve, hway, hperm hhangs, htime 10 hscope⟩

end Provider
end MailReconciler
