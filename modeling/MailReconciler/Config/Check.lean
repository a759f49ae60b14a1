/-
What a configuration stands for: the base of the API, the policy, the breaker and the transport; and the check that all
of them are sound.
-/
import MailReconciler.Config.Basic
import MailReconciler.Http.Transport
import MailReconciler.Retry.Policy

namespace MailReconciler

/-! ## Sections -/

namespace ApiSection

/-- The base of the API: the one that is set, unless it is blank, or else the endpoint of the region. -/
def effectiveBase (s : ApiSection) : String :=
  match s.baseUrl.map Text.trim with
  | some url => if url.isEmpty then s.region.endpoint else url
  | none => s.region.endpoint

/-- What the section looks like in diagnostics, without the secret. -/
def describe (s : ApiSection) : String :=
  "ApiConfig \x7b region: " ++ s.region.describe ++ ", base_url: " ++ Text.quoteOption s.baseUrl ++ ", username: " ++
    Text.quote s.username ++ ", api_key: \"<redacted>\" \x7d"

end ApiSection

/-- The retry policy: the profile with all that differs from it, checked. -/
def RetrySection.policy (s : RetrySection) : Except SetupError Policy :=
  let profile := match s.profile with
    | .conservative => Policy.conservative
    | .api => Policy.api
  let changed : Policy := { profile with
    maxAttempts := s.maxAttempts.getD profile.maxAttempts
    initial := s.initial.getD profile.initial
    longest := s.longest.getD profile.longest
    jitter := s.jitter.getD profile.jitter }
  (s.phrases.foldl Policy.addPhrase changed).check

/-- The settings of the breaker, checked; its name must have text. -/
def BreakerSection.checkedSettings (s : BreakerSection) : Except SetupError BreakerSettings :=
  if Text.isBlankText s.name then .error (.setting "circuit_breaker.name" "must not be empty")
  else s.settings.check

/-! ## The whole -/

namespace Config

/-- How the program names itself to servers. -/
def userAgent : String := "provider-mailgun/0.1.0"

/-- The transport that the configuration describes. -/
def transport (names : HostNames) (c : Config) : Except SetupError Transport :=
  Transport.build names {
    base := c.api.effectiveBase
    username := c.api.username
    apiKey := c.api.apiKey
    timeout := c.http.requestTimeout
    idleTimeout := c.http.idleTimeout
    maxIdlePerHost := c.http.maxIdlePerHost
    gatewayRetries := c.http.gatewayRetries
    gatewayBackoff := c.http.gatewayBackoff
    userAgent := some userAgent }

/-- Refuses a base that is not the URL of a web server. -/
def checkBase (names : HostNames) (base : String) : Except SetupError Unit :=
  match Url.parse names base with
  | .error e => .error (.setting "api.base_url" ("invalid URL '" ++ base ++ "': " ++ e.message))
  | .ok url =>
    if url.scheme = "http" ∨ url.scheme = "https" then .ok ()
    else .error (.setting "api.base_url" ("unsupported scheme '" ++ url.scheme ++ "'"))

/-- Refuses a configuration that cannot work; the first fault counts. -/
def check (names : HostNames) (c : Config) : Except SetupError Unit := do
  if Text.isBlankText c.api.apiKey then .error (.setting "api.api_key" "must not be empty")
  if Text.isBlankText c.api.username then .error (.setting "api.username" "must not be empty")
  checkBase names c.api.effectiveBase
  if c.controller.maxConcurrency = 0 then
    .error (.setting "controller.max_concurrency" "must be greater than 0")
  let _ ← c.breaker.checkedSettings
  let _ ← c.retry.policy

end Config
end MailReconciler
