/-
Sightings: what is found when resources of one kind are observed by their identifiers, a bounded number at a time.
-/
import MailReconciler.Lifecycle.Basic
import MailReconciler.Provider.Basic
import MailReconciler.Work.Pool

namespace MailReconciler

/-- What came of observing one resource: its state, that there is none, or a failure. -/
structure Sighting where
  kind : ResourceKind
  id : String
  result : Except CallFailure (Option Json)

namespace Sighting

/-- Whether the resource is known to exist. -/
def isFound (s : Sighting) : Bool :=
  match s.result with
  | .ok (some _) => true
  | _ => false

/-- Whether nothing could be found out. -/
def failed (s : Sighting) : Bool :=
  match s.result with
  | .error _ => true
  | .ok _ => false

/-- A sighting as JSON. Only what exists has a state, and only a failure has a text. -/
def toJson (s : Sighting) : Json :=
  .object ([("kind", Word.toJson s.kind), ("id", .string s.id), ("exists", .bool s.isFound)] ++
    match s.result with
    | .ok none => []
    | .ok (some state) => [("observed", state)]
    | .error e => [("error", .string e.message)])

end Sighting

namespace Provider

variable {ρ : Type}

/-- Observes one resource. -/
def sight (p : Provider ρ) (scope : Scope) (kind : ResourceKind) (domain : Option String) (id : String) :
    Work (World ρ) Sighting := do
  return ⟨kind, id, ← Lifecycle.observeById p.client scope kind domain id⟩

/-- How many resources are observed at a time. -/
def concurrency (p : Provider ρ) : Nat := max 1 p.config.controller.maxConcurrency.toNat

/-- The observations of some resources, not yet begun. -/
def sightings (p : Provider ρ) (scope : Scope) (kind : ResourceKind) (domain : Option String) (ids : List String)
    (now : Instant) (w : World ρ) : Pool (World ρ) Sighting :=
  .ofWork (ids.map (p.sight scope kind domain)) now w

/-- Observes some resources; the sightings come in the order in which they were finished. -/
def observe (p : Provider ρ) (scope : Scope) (kind : ResourceKind) (domain : Option String) (ids : List String)
    (now : Instant) (w : World ρ) : List Sighting × Instant × World ρ :=
  let pool := (p.sightings scope kind domain ids now w).run p.concurrency
  (pool.completed, pool.now, pool.state)

end Provider
end MailReconciler
