/-
Sequences of errands that ask for resources of an account, present or not. Absence is an answer: an errand that the
breaker admits succeeds and tells what is there. But the breaker is told of every missing resource as of a failure, so a
closed breaker admits errands as long as it bears that many missing resources in a row, and no longer.
-/
import MailReconciler.Proofs.Lifecycle.Visit
import MailReconciler.Proofs.Work.Turns

namespace MailReconciler

/-! ## Errands -/

/-- What is done about resources: one is observed or deleted by its external name, or some of a kind are sighted by
their identifiers. -/
inductive Errand where
  | observe (name : String) (desired : Desired)
  | delete (name : String) (desired : Desired)
  | sight (kind : ResourceKind) (domain : Option String) (ids : List String)

/-- What comes of an errand. -/
inductive Finding where
  | observed (result : Except CallFailure Observation)
  | deleted (result : Except CallFailure Unit)
  | sighted (sightings : List Sighting)

namespace Errand

/-- The names are not empty, and the identifiers can be read. -/
def WellFormed : Errand → Prop
  | .observe name _ => name.isEmpty = false
  | .delete _ _ => True
  | .sight kind domain ids => ∀ id ∈ ids, (Place.ofId? kind domain id).isSome = true

/-- Does an errand at an instant: what comes of it, and the world after it. -/
def run (p : Provider Account) (scope : Scope) (now : Instant) (w : World Account) :
    Errand → Option (Finding × World Account)
  | .observe name desired =>
    ((Lifecycle.observe p.client scope name desired).run now w).map fun r => (.observed r.1, r.2.2)
  | .delete name desired =>
    ((Lifecycle.delete p.client scope name desired).run now w).map fun r => (.deleted r.1, r.2.2)
  | .sight kind domain ids =>
    let (sightings, _, w') := p.observe scope kind domain ids now w
    some (.sighted sightings, w')

/-- The places where an errand looks, in order. -/
def places : Errand → List Place
  | .observe name desired | .delete name desired => [desired.place name]
  | .sight kind domain ids => ids.filterMap (Place.ofId? kind domain)

/-- What the resources demand that comes of an errand. -/
def due (h : Holdings) : Errand → Finding
  | .observe name desired => .observed (.ok (h.observation name desired))
  | .delete _ _ => .deleted (.ok ())
  | .sight kind domain ids => .sighted (ids.map fun id => ⟨kind, id, .ok ((Place.ofId? kind domain id).bind h.json?)⟩)

/-- The resources that an errand leaves: what is deleted is gone. -/
def leaves (h : Holdings) : Errand → Holdings
  | .delete name desired => h.without (desired.place name)
  | .observe _ _ | .sight _ _ _ => h

end Errand

/-! ## One errand -/

namespace Breaker

/-- The breaker after calls that look at some places at an instant; none if it does not admit all of them. -/
def visits (h : Holdings) (now : Instant) : List Place → Breaker → Option Breaker
  | [], b => some b
  | p :: rest, b => (b.visit (h.at? p).isSome now).bind (visits h now rest)

/-- How many missing resources in a row a breaker bears after calls that look at some places; none if it does not bear
them. -/
def endures (threshold : Nat) (h : Holdings) : List Place → Nat → Option Nat
  | [], left => some left
  | _ :: _, 0 => none
  | p :: rest, left + 1 => endures threshold h rest (if (h.at? p).isSome then threshold else left)

theorem Bears.visits {h : Holdings} (now : Instant) {left' : Nat} :
    ∀ {places : List Place} {b : Breaker} {left : Nat}, b.Bears left →
      endures b.settings.failureThreshold.toNat h places left = some left' →
      ∃ b', visits h now places b = some b' ∧ b'.settings = b.settings ∧ b'.Bears left'
  | [], b, left, hb, hend => by
    cases hend
    exact ⟨b, rfl, rfl, hb⟩
  | p :: rest, b, 0, hb, hend => by cases hend
  | p :: rest, b, left + 1, hb, hend => by
    obtain ⟨b₁, hvisit, hsettings, hb₁⟩ := hb.visit (h.at? p).isSome now
    unfold endures at hend
    rw [← hsettings] at hb₁ hend
    obtain ⟨b', hrest, hsettings', hb'⟩ := hb₁.visits now hend
    refine ⟨b', ?_, hsettings'.trans hsettings, hb'⟩
    unfold Breaker.visits
    rw [hvisit]
    exact hrest

end Breaker

section Errands

variable {policy : Policy} (config : Config) (scope : Scope) {now : Instant} {w : World Account} {b : Breaker}

/-- Sightings that the breaker admits are made in turn, and all succeed. -/
theorem turns_sight (hp : policy.IsPreset) {kind : ResourceKind} {domain : Option String} {h : Holdings} :
    ∀ {ids : List String} {w : World Account}, (∀ id ∈ ids, (Place.ofId? kind domain id).isSome = true) →
      w.state.remote.failures = [] → w.state.remote.holdings = h →
      Breaker.visits h (w.read now) (ids.filterMap (Place.ofId? kind domain)) w.state.breaker = some b →
      ∃ w', Work.Turns now (ids.map ((⟨config, Account.client policy⟩ : Provider Account).sight scope kind domain)) w
          (ids.map fun id => ⟨kind, id, .ok ((Place.ofId? kind domain id).bind h.json?)⟩) w' ∧
        Account.Leaves w b h w'
  | [], w, _, hf, hh, hvisits => by
    cases hvisits
    exact ⟨w, .nil w, rfl, rfl, hh, hf⟩
  | id :: ids, w, hids, hf, hh, hvisits => by
    obtain ⟨p, hplace⟩ := Option.isSome_iff_exists.1 (hids id List.mem_cons_self)
    rw [List.filterMap_cons_some hplace] at hvisits
    obtain ⟨b₁, hvisit, hrest⟩ := Option.bind_eq_some_iff.1 hvisits
    subst hh
    obtain ⟨w₁, hrun, hleaves⟩ := Account.run_sight scope config hp hf hplace hvisit
    have hread : w₁.read now = w.read now := by
      unfold World.read
      rw [hleaves.clock]
    rw [← hread, ← hleaves.breaker] at hrest
    obtain ⟨w', hturns, hleaves'⟩ := turns_sight hp (fun id hid => hids id (List.mem_cons_of_mem _ hid))
      hleaves.failures hleaves.holdings hrest
    refine ⟨w', ?_, hleaves'.breaker, hleaves'.clock.trans hleaves.clock, hleaves'.holdings, hleaves'.failures⟩
    have hvalue :
        (Place.ofId? kind domain id).bind w.state.remote.holdings.json? = w.state.remote.holdings.json? p := by
      rw [hplace]
      rfl
    rw [List.map_cons, List.map_cons, hvalue]
    exact .cons hrun hturns

/-- An errand that the breaker admits is done, and what is due comes of it. -/
theorem run_errand (hp : policy.IsPreset) {errand : Errand} (hformed : errand.WellFormed)
    (hf : w.state.remote.failures = [])
    (hvisits : Breaker.visits w.state.remote.holdings (w.read now) errand.places w.state.breaker = some b) :
    ∃ w', errand.run ⟨config, Account.client policy⟩ scope now w = some (errand.due w.state.remote.holdings, w') ∧
      Account.Leaves w b (errand.leaves w.state.remote.holdings) w' := by
  cases errand with
  | observe name desired =>
    obtain ⟨b₁, hvisit, hb⟩ := Option.bind_eq_some_iff.1 hvisits
    cases hb
    obtain ⟨w', hrun, hleaves⟩ := Account.run_observe scope hp hf hformed hvisit
    refine ⟨w', ?_, hleaves⟩
    show ((Lifecycle.observe (Account.client policy) scope name desired).run now w).map _ = _
    rw [hrun]
    rfl
  | delete name desired =>
    obtain ⟨b₁, hvisit, hb⟩ := Option.bind_eq_some_iff.1 hvisits
    cases hb
    obtain ⟨w', hrun, hleaves⟩ := Account.run_delete scope hp hf hvisit
    refine ⟨w', ?_, hleaves⟩
    show ((Lifecycle.delete (Account.client policy) scope name desired).run now w).map _ = _
    rw [hrun]
    rfl
  | sight kind domain ids =>
    obtain ⟨w', hturns, hleaves⟩ := turns_sight config scope hp hformed hf rfl hvisits
    refine ⟨w', ?_, hleaves⟩
    have hlimit : 0 < (⟨config, Account.client policy⟩ : Provider Account).concurrency := Nat.le_max_left ..
    obtain ⟨hcompleted, -, hstate⟩ := Pool.run_ofWork hlimit hturns
    simp only [Errand.run, Provider.observe, Provider.sightings, hcompleted, hstate]
    rfl

/-! ## Sequences -/

/-- An errand with the instant at which it is begun and the clock that the breaker reads then. -/
structure Trip where
  now : Instant
  clock : BreakerClock
  errand : Errand

namespace Trip

/-- Does errands one after the other: what comes of them, and the world after them. -/
def runAll (p : Provider Account) (scope : Scope) : List Trip → World Account → Option (List Finding × World Account)
  | [], w => some ([], w)
  | trip :: rest, w => do
    let (finding, w) ← trip.errand.run p scope trip.now { w with state := { w.state with clock := trip.clock } }
    let (findings, w) ← runAll p scope rest w
    return (finding :: findings, w)

/-- What the resources demand that comes of errands. -/
def dueAll : List Trip → Holdings → List Finding
  | [], _ => []
  | trip :: rest, h => trip.errand.due h :: dueAll rest (trip.errand.leaves h)

/-- The resources that errands leave. -/
def leavesAll (trips : List Trip) (h : Holdings) : Holdings := trips.foldl (fun h trip => trip.errand.leaves h) h

/-- The breaker after errands; none if it does not admit all their calls. -/
def visitsAll : List Trip → Holdings → Breaker → Option Breaker
  | [], _, b => some b
  | trip :: rest, h, b =>
    (b.visits h (trip.clock.read trip.now) trip.errand.places).bind (visitsAll rest (trip.errand.leaves h))

/-- How many missing resources in a row a breaker bears after errands; none if it does not bear them. -/
def enduresAll (threshold : Nat) : List Trip → Holdings → Nat → Option Nat
  | [], _, left => some left
  | trip :: rest, h, left =>
    (Breaker.endures threshold h trip.errand.places left).bind (enduresAll threshold rest (trip.errand.leaves h))

theorem visitsAll_of_enduresAll {left' : Nat} :
    ∀ {trips : List Trip} {h : Holdings} {b : Breaker} {left : Nat}, b.Bears left →
      enduresAll b.settings.failureThreshold.toNat trips h left = some left' →
      ∃ b', visitsAll trips h b = some b' ∧ b'.Bears left'
  | [], _, b, _, hb, hend => by
    cases hend
    exact ⟨b, rfl, hb⟩
  | trip :: rest, h, b, left, hb, hend => by
    obtain ⟨left₁, hfirst, hrest⟩ := Option.bind_eq_some_iff.1 hend
    obtain ⟨b₁, hvisits, hsettings, hb₁⟩ := hb.visits (trip.clock.read trip.now) hfirst
    rw [← hsettings] at hrest
    obtain ⟨b', hall, hb'⟩ := visitsAll_of_enduresAll hb₁ hrest
    refine ⟨b', ?_, hb'⟩
    unfold visitsAll
    rw [hvisits]
    exact hall

theorem runAll_of_visitsAll (hp : policy.IsPreset) :
    ∀ {trips : List Trip} {w : World Account}, (∀ trip ∈ trips, trip.errand.WellFormed) → w.state.remote.failures = [] →
      visitsAll trips w.state.remote.holdings w.state.breaker = some b →
      ∃ w', runAll ⟨config, Account.client policy⟩ scope trips w = some (dueAll trips w.state.remote.holdings, w') ∧
        w'.state.remote.holdings = leavesAll trips w.state.remote.holdings ∧ w'.state.breaker = b
  | [], w, _, _, hvisits => by
    cases hvisits
    exact ⟨w, rfl, rfl, rfl⟩
  | trip :: rest, w, hformed, hf, hvisits => by
    obtain ⟨b₁, hfirst, hrest⟩ := Option.bind_eq_some_iff.1 hvisits
    have hput : ({ w with state := { w.state with clock := trip.clock } } : World Account).state.remote.failures = [] :=
      hf
    obtain ⟨w₁, hrun, hleaves⟩ := run_errand config scope hp (hformed trip List.mem_cons_self) hput hfirst
    rw [← hleaves.breaker, ← hleaves.holdings] at hrest
    obtain ⟨w', hall, hholdings, hbreaker⟩ := runAll_of_visitsAll hp
      (fun trip htrip => hformed trip (List.mem_cons_of_mem _ htrip)) hleaves.failures hrest
    rw [hleaves.holdings] at hall hholdings
    refine ⟨w', ?_, hholdings, hbreaker⟩
    unfold runAll
    rw [hrun]
    show (runAll _ scope rest w₁).bind _ = _
    rw [hall]
    rfl

end Trip

/-- Let errands be done one after the other for an account before which no failures are put, at any instants and under
a preset policy. As long as the breaker admits their calls, in whatever state it is, each of them succeeds: it finds
what is there at that moment, absent or present, and what it deletes is gone. A breaker that bears some missing
resources in a row admits the calls for as long, whatever else they find; and in the end it is open exactly if it bears
no further one. -/
theorem absence_is_answer (hp : policy.IsPreset) {trips : List Trip} {w : World Account}
    (hformed : ∀ trip ∈ trips, trip.errand.WellFormed) (hf : w.state.remote.failures = []) (config : Config)
    (scope : Scope) :
    (∀ b, Trip.visitsAll trips w.state.remote.holdings w.state.breaker = some b →
      ∃ w', Trip.runAll ⟨config, Account.client policy⟩ scope trips w =
          some (Trip.dueAll trips w.state.remote.holdings, w') ∧
        w'.state.remote.holdings = Trip.leavesAll trips w.state.remote.holdings ∧ w'.state.breaker = b) ∧
    (∀ (h : Holdings) name desired, ((Errand.delete name desired).leaves h).at? (desired.place name) = none) ∧
    ∀ left left', w.state.breaker.Bears left →
      Trip.enduresAll w.state.breaker.settings.failureThreshold.toNat trips w.state.remote.holdings left = some left' →
      ∃ b, Trip.visitsAll trips w.state.remote.holdings w.state.breaker = some b ∧ (b.mode = .opened ↔ left' = 0) := by
  have hruns : ∀ b, Trip.visitsAll trips w.state.remote.holdings w.state.breaker = some b → _ :=
    fun b hvisits => Trip.runAll_of_visitsAll config scope hp hformed hf hvisits
  refine ⟨hruns, fun h _ _ => h.at?_without_self _, ?_⟩
  intro left left' hb hend
  obtain ⟨b, hvisits, hb'⟩ := Trip.visitsAll_of_enduresAll hb hend
  exact ⟨b, hvisits, hb'.opened_iff⟩

/-- The world of an account without resources behind a breaker. -/
def emptyWorld (b : Breaker) : World Account := ⟨[], .cycle [], ⟨b, .ofRun, {}⟩⟩

/-- Of the five missing resources that a usual breaker bears, four are asked for. -/
theorem four_absences_borne : (∀ trip ∈ ([⟨0, .ofRun, .observe "a.io" (.domain {})⟩,
      ⟨5, .ofRun, .sight .bounce (some "a.io") ["x", "y"]⟩, ⟨5, .ofRun, .delete "r" (.route {})⟩] : List Trip),
      trip.errand.WellFormed) ∧
    ∃ w', Trip.runAll ⟨{}, Account.client .api⟩ .endless [⟨0, .ofRun, .observe "a.io" (.domain {})⟩,
      ⟨5, .ofRun, .sight .bounce (some "a.io") ["x", "y"]⟩, ⟨5, .ofRun, .delete "r" (.route {})⟩]
      (emptyWorld ⟨"mailgun", {}, .closed, .closed, 0, 0, none⟩) =
        some ([.observed (.ok .absent), .sighted [⟨.bounce, "x", .ok none⟩, ⟨.bounce, "y", .ok none⟩],
          .deleted (.ok ())], w') ∧
      w'.state.breaker.mode ≠ .opened := by
  have hformed : ∀ trip ∈ ([⟨0, .ofRun, .observe "a.io" (.domain {})⟩,
      ⟨5, .ofRun, .sight .bounce (some "a.io") ["x", "y"]⟩, ⟨5, .ofRun, .delete "r" (.route {})⟩] : List Trip),
      trip.errand.WellFormed := by
    intro trip htrip
    simp only [List.mem_cons, List.not_mem_nil, or_false] at htrip
    rcases htrip with rfl | rfl | rfl
    · exact rfl
    · intro id _
      exact rfl
    · trivial
  have hb : (⟨"mailgun", {}, .closed, .closed, 0, 0, none⟩ : Breaker).Bears 5 := .closed rfl rfl
  have hp : Policy.api.IsPreset := .inr rfl
  have hf : (emptyWorld ⟨"mailgun", {}, .closed, .closed, 0, 0, none⟩).state.remote.failures = [] := rfl
  obtain ⟨hruns, -, hadmits⟩ := absence_is_answer hp hformed hf {} .endless
  obtain ⟨b, hvisits, hopened⟩ := hadmits 5 1 hb rfl
  obtain ⟨w', hrun, -, rfl⟩ := hruns b hvisits
  refine ⟨hformed, w', hrun, ?_⟩
  intro h
  exact absurd (hopened.1 h) (by decide)

/-- A breaker that opens at one failure opens when one missing domain is observed, and the next observation fails. -/
theorem missing_domain_shuts_breaker :
    Breaker.create "mailgun" ⟨1, .ofSeconds 30, 1⟩ =
      .ok (Breaker.touchy, [.gauge Family.breakerState BreakerMode.closed.code [("breaker", "mailgun")]]) ∧
    ∃ w', Trip.runAll ⟨{}, Account.client .api⟩ .endless
      [⟨0, .ofRun, .observe "a.io" (.domain {})⟩, ⟨0, .ofRun, .observe "a.io" (.domain {})⟩]
      (emptyWorld Breaker.touchy) =
        some ([.observed (.ok .absent), .observed (.error (.rejected "get_domain" "mailgun"))], w') := by
  have hkept : Policy.api.retries (.rejected "mailgun" : BreakerFailure ApiFailure) = false := by decide +kernel
  have hvisits : Breaker.visits {} 0 [.domain "a.io"] Breaker.touchy =
      some (Breaker.touchy.recordFailure 0).1 := rfl
  have hp : Policy.api.IsPreset := .inr rfl
  have hformed : (Errand.observe "a.io" (.domain {})).WellFormed := rfl
  have hf : (emptyWorld Breaker.touchy).state.remote.failures = [] := rfl
  obtain ⟨w₁, hfirst, hleaves⟩ := run_errand {} .endless hp hformed hf hvisits
  -- the breaker is open now, and no time has passed since
  have hb : w₁.state.breaker = (Breaker.touchy.recordFailure 0).1 := hleaves.breaker
  have hname : w₁.state.breaker.name = "mailgun" := by rw [hb]; rfl
  have hopened : w₁.state.breaker.mode = .opened := by
    rw [hb]
    rfl
  have hcold : w₁.state.breaker.cooled (BreakerClock.ofRun.read 0) = false := by
    rw [hb]
    rfl
  obtain ⟨w₂, hcall, -⟩ :
      ∃ w₂, ((Account.client .api).call .endless (.getDomain "a.io")).run 0
        { w₁ with state := { w₁.state with clock := .ofRun } } =
          some (.error (.rejected "get_domain" w₁.state.breaker.name), 0, w₂) ∧ _ :=
    Account.run_of_rejected .endless (.getDomain "a.io") hopened hcold (hname ▸ hkept)
  have hsecond : (Errand.observe "a.io" (.domain {})).run ⟨{}, Account.client .api⟩ .endless 0
      { w₁ with state := { w₁.state with clock := .ofRun } } =
        some (.observed (.error (.rejected "get_domain" "mailgun")), w₂) := by
    show ((Lifecycle.lookUp (Account.client .api) .endless (.getDomain "a.io") Observed.domain
      (DomainSpec.metBy {})).run 0 _).map _ = _
    rw [Lifecycle.run_lookUp hcall, hname]
    rfl
  refine ⟨rfl, w₂, ?_⟩
  show ((Errand.observe "a.io" (.domain {})).run _ _ 0 (emptyWorld Breaker.touchy)).bind _ = _
  rw [hfirst]
  show (((Errand.observe "a.io" (.domain {})).run _ _ 0 _).bind _).bind _ = _
  rw [hsecond]
  rfl

end Errands
end MailReconciler
