/-
The provider: a configuration, and the client that it describes. It is put together over any service of the remote API;
in operation that is the transport with its carrier.
-/
import MailReconciler.Client.Guarded
import MailReconciler.Config.Check
import MailReconciler.Http.Endpoint

namespace MailReconciler

/-- A provider over remote states. -/
structure Provider (ρ : Type) where
  config : Config
  client : Client ρ

/-- Why a provider cannot be put together. -/
inductive AssemblyError where
  /-- There is no transport as configured. -/
  | transport (cause : SetupError)
  /-- The breaker or the policy cannot work. -/
  | client (cause : SetupError)
deriving Repr, DecidableEq

/-- The text of an assembly error. -/
def AssemblyError.message : AssemblyError → String
  | .transport cause => "failed to build HTTP client: " ++ cause.message
  | .client cause => cause.message

namespace Provider

variable {ρ : Type}

/-! ## Assembly -/

/-- The breaker of a configuration with its first samples, and the policy. -/
def guards (config : Config) : Except SetupError (Breaker × List Sample × Policy) := do
  let settings ← config.breaker.checkedSettings
  let (breaker, samples) ← Breaker.create config.breaker.name settings
  return (breaker, samples, ← config.retry.policy)

/-- Puts a provider together, with the world that it begins in: a breaker as configured, and a remote state. -/
def assemble (config : Config) (service : Service ρ) (clock : BreakerClock) (random : RandomWords) (remote : ρ) :
    Except AssemblyError (Provider ρ × World ρ) :=
  match guards config with
  | .error cause => .error (.client cause)
  | .ok (breaker, samples, policy) =>
    .ok (⟨config, ⟨service, policy⟩⟩, ⟨samples, random, ⟨breaker, clock, remote⟩⟩)

/-- Puts a provider together over the transport with a carrier, whose state is given. -/
def overCarrier (names : HostNames) (complaints : Json.Complaints) (config : Config) (c : Carrier ρ)
    (random : RandomWords) (remote : ρ) : Except AssemblyError (Provider ρ × World ρ) :=
  match config.transport names with
  | .error cause => .error (.transport cause)
  | .ok transport => assemble config (transport.service names complaints c) .ofRun random remote

/-! ## Readiness -/

/-- Whether calls may get through: the breaker is not open. -/
def isReady (w : World ρ) : Bool := w.state.breaker.published ≠ .opened

end Provider
end MailReconciler
