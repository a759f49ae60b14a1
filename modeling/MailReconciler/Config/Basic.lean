/-
The configuration: six sections, all of whose settings have defaults.
-/
import MailReconciler.Address.Socket
import MailReconciler.Breaker.Basic
import MailReconciler.Config.Document
import MailReconciler.Resource.Vocabulary

namespace MailReconciler

open Json (Decoder Record)

/-! ## Sections -/

/-- The remote API: where it is, and the credentials for it. -/
structure ApiSection where
  region : Region := .us
  /-- In the place of the region's endpoint. -/
  baseUrl : Option String := none
  username : String := "api"
  /-- A secret, which is read but never written. -/
  apiKey : String := ""
deriving Repr, DecidableEq

/-- How requests are sent. -/
structure HttpSection where
  requestTimeout : Duration := .ofSeconds 30
  idleTimeout : Duration := .ofSeconds 90
  maxIdlePerHost : UInt64 := 16
  gatewayRetries : UInt32 := 2
  gatewayBackoff : Duration := .ofMillis 500
deriving DecidableEq

/-- The policies that a retry section starts from. -/
inductive RetryProfile where
  | conservative
  | api
deriving Repr, DecidableEq

instance : Word RetryProfile where
  title := "RetryProfile"
  all := [.conservative, .api]
  word
    | .conservative => "default"
    | .api => "api"

/-- How often operations are tried: a profile, and what differs from it. -/
structure RetrySection where
  profile : RetryProfile := .api
  maxAttempts : Option UInt32 := none
  initial : Option Duration := none
  longest : Option Duration := none
  jitter : Option Float := none
  /-- Added to the phrases of the profile. -/
  phrases : List String := []

/-- The circuit breaker. -/
structure BreakerSection where
  name : String := "mailgun"
  settings : BreakerSettings := {}
deriving DecidableEq

/-- The server of health, readiness and metrics. -/
structure ServerSection where
  address : SocketAddress := .v4 ⟨0, 0, 0, 0⟩ 8080
deriving DecidableEq

/-- Batch commands. -/
structure ControllerSection where
  /-- Operations that may be under way at a time. -/
  maxConcurrency : UInt64 := 10
deriving Repr, DecidableEq

/-- A configuration. -/
structure Config where
  api : ApiSection := {}
  http : HttpSection := {}
  retry : RetrySection := {}
  breaker : BreakerSection := {}
  server : ServerSection := {}
  controller : ControllerSection := {}

/-! ## Reading -/

/-- A socket address in its text. -/
def SocketAddress.decode : Decoder SocketAddress := fun j => do
  match SocketAddress.parse? (← Decoder.string j) with
  | some a => .ok a
  | none => .error .noneFits

/-- Reads the section of the remote API. -/
def ApiSection.decode (format : DocumentFormat) : Decoder ApiSection := fun j => do
  let d : ApiSection := {}
  let r ← format.fields ["region", "base_url", "username", "api_key"] j
  return {
    region := ← r.get "region" d.region format.word
    baseUrl := ← r.get "base_url" d.baseUrl (Decoder.option Decoder.string)
    username := ← r.get "username" d.username Decoder.string
    apiKey := ← r.get "api_key" d.apiKey Decoder.string }

/-- Reads the section of requests. -/
def HttpSection.decode (format : DocumentFormat) : Decoder HttpSection := fun j => do
  let d : HttpSection := {}
  let r ← format.fields ["request_timeout_ms", "pool_idle_timeout_ms", "max_idle_per_host", "gateway_retries",
    "gateway_backoff_ms"] j
  return {
    requestTimeout := ← r.get "request_timeout_ms" d.requestTimeout Duration.decodeMillis
    idleTimeout := ← r.get "pool_idle_timeout_ms" d.idleTimeout Duration.decodeMillis
    maxIdlePerHost := ← r.get "max_idle_per_host" d.maxIdlePerHost Decoder.uint64
    gatewayRetries := ← r.get "gateway_retries" d.gatewayRetries Decoder.uint32
    gatewayBackoff := ← r.get "gateway_backoff_ms" d.gatewayBackoff Duration.decodeMillis }

/-- Reads the section of retries. -/
def RetrySection.decode (format : DocumentFormat) : Decoder RetrySection := fun j => do
  let d : RetrySection := {}
  let r ← format.fields ["profile", "max_attempts", "initial_backoff_ms", "max_backoff_ms", "jitter_fraction",
    "extra_retryable_substrings"] j
  return {
    profile := ← r.get "profile" d.profile format.word
    maxAttempts := ← r.get "max_attempts" none (Decoder.option Decoder.uint32)
    initial := ← r.get "initial_backoff_ms" none (Decoder.option Duration.decodeMillis)
    longest := ← r.get "max_backoff_ms" none (Decoder.option Duration.decodeMillis)
    jitter := ← r.get "jitter_fraction" none (Decoder.option Decoder.double)
    phrases := ← r.get "extra_retryable_substrings" [] (Decoder.list Decoder.string) }

/-- Reads the section of the breaker. -/
def BreakerSection.decode (format : DocumentFormat) : Decoder BreakerSection := fun j => do
  let d : BreakerSection := {}
  let s : BreakerSettings := {}
  let r ← format.fields ["name", "failure_threshold", "reset_timeout_ms", "half_open_success_threshold"] j
  return {
    name := ← r.get "name" d.name Decoder.string
    settings := {
      failureThreshold := ← r.get "failure_threshold" s.failureThreshold Decoder.uint32
      resetTimeout := ← r.get "reset_timeout_ms" s.resetTimeout Duration.decodeMillis
      successThreshold := ← r.get "half_open_success_threshold" s.successThreshold Decoder.uint32 } }

/-- Reads the section of the server. -/
def ServerSection.decode (format : DocumentFormat) : Decoder ServerSection := fun j => do
  let d : ServerSection := {}
  let r ← format.fields ["health_addr"] j
  return { address := ← r.get "health_addr" d.address SocketAddress.decode }

/-- Reads the section of batch commands. -/
def ControllerSection.decode (format : DocumentFormat) : Decoder ControllerSection := fun j => do
  let d : ControllerSection := {}
  let r ← format.fields ["max_concurrency"] j
  return { maxConcurrency := ← r.get "max_concurrency" d.maxConcurrency Decoder.uint64 }

/-- Reads a configuration. -/
def Config.decode (format : DocumentFormat) : Decoder Config := fun j => do
  let r ← format.fields ["api", "http", "retry", "circuit_breaker", "server", "controller"] j
  return {
    api := ← r.get "api" {} (ApiSection.decode format)
    http := ← r.get "http" {} (HttpSection.decode format)
    retry := ← r.get "retry" {} (RetrySection.decode format)
    breaker := ← r.get "circuit_breaker" {} (BreakerSection.decode format)
    server := ← r.get "server" {} (ServerSection.decode format)
    controller := ← r.get "controller" {} (ControllerSection.decode format) }

/-! ## Writing -/

/-- A member that is left out when there is no value. -/
def optionalMember {α : Type} (name : String) (write : α → Json) : Option α → List (String × Json)
  | none => []
  | some a => [(name, write a)]

/-- Writes the section of the remote API, without the secret. -/
def ApiSection.toJson (s : ApiSection) : Json :=
  .object [
    ("region", Word.toJson s.region),
    ("base_url", .ofOption .string s.baseUrl),
    ("username", .string s.username)]

/-- Writes the section of requests. -/
def HttpSection.toJson (s : HttpSection) : Json :=
  .object [
    ("request_timeout_ms", s.requestTimeout.millisJson),
    ("pool_idle_timeout_ms", s.idleTimeout.millisJson),
    ("max_idle_per_host", .nat s.maxIdlePerHost.toNat),
    ("gateway_retries", .nat s.gatewayRetries.toNat),
    ("gateway_backoff_ms", s.gatewayBackoff.millisJson)]

/-- Writes the section of retries; what does not differ from the profile is left out. -/
def RetrySection.toJson (s : RetrySection) : Json :=
  .object ([("profile", Word.toJson s.profile)] ++
    optionalMember "max_attempts" (fun n => .nat n.toNat) s.maxAttempts ++
    optionalMember "initial_backoff_ms" Duration.millisJson s.initial ++
    optionalMember "max_backoff_ms" Duration.millisJson s.longest ++
    optionalMember "jitter_fraction" Json.ofFloat s.jitter ++
    if s.phrases.isEmpty then [] else [("extra_retryable_substrings", .array (s.phrases.map .string))])

/-- Writes the section of the breaker. -/
def BreakerSection.toJson (s : BreakerSection) : Json :=
  .object [
    ("name", .string s.name),
    ("failure_threshold", .nat s.settings.failureThreshold.toNat),
    ("reset_timeout_ms", s.settings.resetTimeout.millisJson),
    ("half_open_success_threshold", .nat s.settings.successThreshold.toNat)]

/-- Writes a configuration. -/
def Config.toJson (c : Config) : Json :=
  .object [
    ("api", c.api.toJson),
    ("http", c.http.toJson),
    ("retry", c.retry.toJson),
    ("circuit_breaker", c.breaker.toJson),
    ("server", .object [("health_addr", .string c.server.address.render)]),
    ("controller", .object [("max_concurrency", .nat c.controller.maxConcurrency.toNat)])]

end MailReconciler
