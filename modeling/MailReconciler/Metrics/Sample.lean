/-
Metric samples: the names of the families, and what the library emits into them.
-/
import MailReconciler.Duration

namespace MailReconciler

/-- What a sample does to its family: it counts one, sets a value or observes one. -/
inductive SampleKind where
  | counter
  | gauge
  | histogram
deriving Repr, DecidableEq

/-- The labels of a sample, in the order in which they are given. -/
abbrev Labels := List (String × String)

/-- One emitted sample. -/
structure Sample where
  kind : SampleKind
  name : String
  value : Float
  labels : Labels
deriving Repr

namespace Sample

/-- Counts one. -/
def count (name : String) (labels : Labels) : Sample := ⟨.counter, name, 1.0, labels⟩

/-- Sets a value. -/
def gauge (name : String) (value : Float) (labels : Labels) : Sample := ⟨.gauge, name, value, labels⟩

/-- Observes a value. -/
def observe (name : String) (value : Float) (labels : Labels) : Sample := ⟨.histogram, name, value, labels⟩

/-- Observes a duration in seconds. -/
def time (name : String) (duration : Duration) (labels : Labels) : Sample := observe name duration.seconds labels

end Sample

/-! ## Families -/

namespace Family

/-- Attempts of retried operations, by operation and outcome. -/
def attempts : String := "provider_retry_attempts_total"

/-- Finished runs of retried operations, by operation and outcome. -/
def runs : String := "provider_retry_operations_total"

/-- Waits between attempts in seconds, by operation. -/
def backoff : String := "provider_retry_backoff_seconds"

/-- The state of a breaker, by breaker. -/
def breakerState : String := "provider_circuit_breaker_state"

/-- Changes of state, by breaker and the states left and entered. -/
def transitions : String := "provider_circuit_breaker_transitions_total"

/-- Calls refused by an open breaker, by breaker. -/
def rejections : String := "provider_circuit_breaker_rejections_total"

end Family
end MailReconciler
