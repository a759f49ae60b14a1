/-
How often an operation is tried, how long to wait in between, and which errors are worth another try.
-/
import MailReconciler.Duration
import MailReconciler.Random
import MailReconciler.Failure.Setup
import MailReconciler.Text.Lowercase
import MailReconciler.Text.Phrase

namespace MailReconciler

/-- A retry policy. Its phrases are in lower case and strictly increasing. -/
structure Policy where
  /-- Attempts in all, the first included. -/
  maxAttempts : UInt32
  /-- The wait before the first retry. -/
  initial : Duration
  /-- No wait is longer. -/
  longest : Duration
  /-- The part of a wait by which chance may lengthen or shorten it. -/
  jitter : Float
  /-- Texts that mark an error as passing. -/
  phrases : List String

namespace Policy

/-! ## Presets -/

/-- The phrases of every preset. -/
def commonPhrases : List String :=
  ["timeout", "connection refused", "connection reset", "rate limit", "too many requests", "service unavailable",
    "temporarily unavailable"]

/-- The further phrases of the preset for the remote API. -/
def apiPhrases : List String :=
  ["bad gateway", "gateway timeout", "i/o timeout", "broken pipe", "unexpected eof", "server closed"]

/-- The set of phrases in lower case. -/
def phrasesOf (phrases : List String) : List String := Text.phraseSet (phrases.map Text.lowercase)

/-- Three attempts from a quarter of a second on, for calls of any kind. -/
def conservative : Policy where
  maxAttempts := 3
  initial := .ofMillis 250
  longest := .ofSeconds 16
  jitter := 0.1
  phrases := phrasesOf commonPhrases

/-- Five attempts from half a second on, for the remote API. -/
def api : Policy where
  maxAttempts := 5
  initial := .ofMillis 500
  longest := .ofSeconds 30
  jitter := 0.2
  phrases := phrasesOf (commonPhrases ++ apiPhrases)

/-! ## Changes -/

/-- Adds a phrase. -/
def addPhrase (p : Policy) (phrase : String) : Policy :=
  { p with phrases := Text.insertPhrase (Text.lowercase phrase) p.phrases }

/-- Replaces the phrases. -/
def setPhrases (p : Policy) (phrases : List String) : Policy := { p with phrases := phrasesOf phrases }

/-- Whether a double lies in `[0, 1]`. -/
def isFractionOfOne (x : Float) : Bool := x.isFinite && 0.0 ≤ x && x ≤ 1.0

/-- The policy itself, when it allows an attempt, its waits are in order and its jitter is a fraction. -/
def check (p : Policy) : Except SetupError Policy :=
  if p.maxAttempts = 0 then
    .error (.setting "retry.max_attempts" "must be at least 1")
  else if p.longest < p.initial then
    .error (.setting "retry.initial_backoff" ("initial backoff (" ++ p.initial.render ++
      ") cannot exceed max backoff (" ++ p.longest.render ++ ")"))
  else if !isFractionOfOne p.jitter then
    .error (.setting "retry.jitter_fraction" ("must be within [0, 1], got " ++ Decimal.plain.render p.jitter))
  else
    .ok p

/-! ## Waits -/

/-- Waits double at most this many times. -/
def maxDoublings : Nat := 30

/-- The wait behind attempt number `attempt`, counted from zero, before chance changes it. -/
def plainWait (p : Policy) (attempt : Nat) : Duration :=
  min (p.initial.times (1 <<< min attempt maxDoublings)) p.longest

/-- Lengthens or shortens a wait by a random part of it. Results that are no duration give the initial wait, and none
is longer than the longest. -/
def disturb (p : Policy) (base : Duration) (word : UInt64) : Duration :=
  let spread := base.seconds * p.jitter
  let seconds := base.seconds + RandomWords.draw (-spread) spread word
  let wait := if seconds < 0.0 then p.initial else (Duration.ofSeconds? seconds).getD p.initial
  min wait p.longest

/-- The wait behind attempt number `attempt`, counted from zero. No random word is used without a jitter or a wait. -/
def wait (p : Policy) (attempt : Nat) (source : RandomWords) : Duration × RandomWords :=
  let base := p.plainWait attempt
  if p.jitter ≤ 0.0 || base.isZero then
    (base, source)
  else
    let (word, source) := source.next
    (p.disturb base word, source)

end Policy
end MailReconciler
