/-
What requests are sent with: the base of their URLs, the credentials, and how often a bad gateway is tried again.
-/
import MailReconciler.Duration
import MailReconciler.Failure.Setup
import MailReconciler.Text.Quoted
import MailReconciler.Url.Basic

namespace MailReconciler

/-- A transport. Its base has no slash at its end. -/
structure Transport where
  base : String
  username : String := "api"
  apiKey : String := ""
  /-- The length of time that a request may take. -/
  timeout : Duration := .ofSeconds 30
  idleTimeout : Duration := .ofSeconds 90
  maxIdlePerHost : UInt64 := 16
  /-- Further attempts when a gateway answers for an absent backend. -/
  gatewayRetries : UInt32 := 2
  /-- The wait before the first of them. -/
  gatewayBackoff : Duration := .ofMillis 500
  userAgent : Option String := none
deriving DecidableEq

namespace Transport

/-- The characters that may stand in a header. -/
def isHeaderChar (c : Char) : Bool := c = '\t' || (0x20 ≤ c.toNat && c.toNat ≠ 0x7F)

/-- A text without the slashes at its end. -/
def trimSlashes (text : String) : String :=
  String.ofList (text.toList.reverse.dropWhile (· = '/')).reverse

/-- The transport with its base trimmed, when that is the URL of a web server and the other settings can be sent. -/
def build (names : HostNames) (t : Transport) : Except SetupError Transport :=
  match Url.parse names t.base with
  | .error e => .error (.setting "api.base_url" e.message)
  | .ok url =>
    if url.scheme ≠ "http" ∧ url.scheme ≠ "https" then
      .error (.setting "api.base_url" ("unsupported scheme '" ++ url.scheme ++ "'"))
    else if t.userAgent.any fun agent => !agent.toList.all isHeaderChar then
      .error (.internal "failed to build HTTP client: builder error")
    else
      .ok { t with base := trimSlashes t.base }

/-- A transport as diagnostics show it, without its secret. -/
def describe (t : Transport) : String :=
  "HttpClient \x7b base_url: " ++ Text.quote t.base ++ ", username: " ++ Text.quote t.username ++
    ", gateway_retries: " ++ toString t.gatewayRetries.toNat ++ ", gateway_backoff: " ++ t.gatewayBackoff.render ++
    ", .. \x7d"

end Transport
end MailReconciler
