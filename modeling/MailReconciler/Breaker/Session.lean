/-
Calls of one breaker that overlap: each is begun, stays in flight, and is finished or abandoned. An abandoned call
leaves no outcome.
-/
import MailReconciler.Breaker.Basic

namespace MailReconciler

/-- A breaker, the calls in flight by their names, and how many were let through. -/
structure BreakerSession where
  breaker : Breaker
  inFlight : List String
  begun : Nat
deriving DecidableEq

namespace BreakerSession

/-- A session without calls. -/
def ofBreaker (b : Breaker) : BreakerSession := ⟨b, [], 0⟩

/-- Begins a call; it is in flight when the breaker lets it through. -/
def start (s : BreakerSession) (id : String) (now : Instant) : Bool × BreakerSession × List Sample :=
  match s.breaker.allow now with
  | (true, b, samples) => (true, ⟨b, id :: s.inFlight, s.begun + 1⟩, samples)
  | (false, b, samples) => (false, { s with breaker := b }, samples)

/-- Whether a call is in flight. -/
def holds (s : BreakerSession) (id : String) : Bool := s.inFlight.contains id

/-- Finishes a call in flight and records its outcome. -/
def finish (s : BreakerSession) (id : String) (now : Instant) (succeeded : Bool) : BreakerSession × List Sample :=
  if s.holds id then
    let (b, samples) := s.breaker.record now succeeded
    ({ s with breaker := b, inFlight := s.inFlight.erase id }, samples)
  else
    (s, [])

/-- Abandons a call in flight. -/
def abandon (s : BreakerSession) (id : String) : BreakerSession := { s with inFlight := s.inFlight.erase id }

/-- Closes the breaker by hand. -/
def reset (s : BreakerSession) : BreakerSession × List Sample :=
  let (b, samples) := s.breaker.reset
  ({ s with breaker := b }, samples)

end BreakerSession
end MailReconciler
