/-
Loading a configuration: the file that is named or found, or else the defaults; over it the environment variables; then
the check. What the readers of documents say of one that they cannot take in is a parameter.
-/
import MailReconciler.Config.Check
import MailReconciler.Config.Credentials
import MailReconciler.Config.Environment
import MailReconciler.Decimal.Bounded

namespace MailReconciler.Config

/-! ## Files -/

/-- The last name of a path that is no mark of the present directory. -/
def fileName? (path : String) : Option String :=
  ((FileTree.namesOf path).filter fun name => name ≠ "" ∧ name ≠ ".").getLast?

/-- What stands behind the last dot of a path's last name, unless nothing stands before it. -/
def extension? (path : String) : Option String := do
  let name ← fileName? path
  if name = ".." then none
  else
    let behind := (name.toList.reverse.takeWhile (· ≠ '.')).reverse
    if name.length ≤ behind.length + 1 then none else some (String.ofList behind)

/-- The format of a file; one without an extension is TOML. -/
def formatOf (path : String) : Except SetupError DocumentFormat :=
  match extension? path with
  | none | some "toml" => .ok .toml
  | some "json" => .ok .json
  | some other => .error (.config none ("Unsupported config format: " ++ other))

/-- The configuration that a text spells. -/
def ofText (complaints : Json.Complaints) (format : DocumentFormat) (text : String) : Except SetupError Config :=
  match Json.readAs? (Config.decode format) (format.read? text) with
  | some config => .ok config
  | none => .error (.config none (format.complaint complaints (Config.decode format) text))

/-- The configuration of a file, unchecked. -/
def loadFile (complaints : Json.Complaints) (env : Environment) (path : String) : Except SetupError Config := do
  let found := env.look path
  if !found.present then .error (.config none ("Config file not found: " ++ path))
  let text ← found.text.mapError fun e => .config none ("Failed to read config file: " ++ e)
  ofText complaints (← formatOf path) text

/-! ## Variables -/

/-- A change by a variable, if it is set. -/
def override (env : Environment) (name : String) (change : String → Config → Except SetupError Config) (c : Config) :
    Except SetupError Config :=
  match env.set? name with
  | none => .ok c
  | some value => change value c

/-- Lays the credentials of a file over the section of the API. -/
def withCredentials (complaints : Json.Complaints) (env : Environment) (path : String) (c : Config) :
    Except SetupError Config := do
  let bytes ← (env.look path).bytes.mapError fun e =>
    SetupError.setting "MAILGUN_CREDENTIALS_FILE" ("failed to read " ++ path ++ ": " ++ e)
  return { c with api := (← Credentials.ofBytes complaints bytes).applyTo c.api }

/-- Sets the region. -/
def withRegion (name : String) (c : Config) : Except SetupError Config :=
  match (Word.parse? name : Option Region) with
  | some region => .ok { c with api := { c.api with region } }
  | none => .error (.setting "MAILGUN_REGION" (Word.refusal Region name))

/-- Sets how many operations may be under way. -/
def withConcurrency (text : String) (c : Config) : Except SetupError Config := do
  let n ← (Decimal.below UInt64.size text).mapError fun e =>
    SetupError.setting "PROVIDER_MAX_CONCURRENCY" ("invalid number: " ++ e.message)
  return { c with controller := { c.controller with maxConcurrency := UInt64.ofNat n } }

/-- Sets where the server listens. -/
def withAddress (text : String) (c : Config) : Except SetupError Config :=
  match SocketAddress.parse? text with
  | some address => .ok { c with server := { c.server with address } }
  | none => .error (.setting "PROVIDER_HEALTH_ADDR" "invalid address: invalid socket address syntax")

/-- Lays the variables over a configuration, one after another. -/
def applyVariables (complaints : Json.Complaints) (env : Environment) (c : Config) : Except SetupError Config := do
  let c ← override env "MAILGUN_CREDENTIALS_FILE" (withCredentials complaints env) c
  let c ← override env "MAILGUN_API_KEY" (fun key c => .ok { c with api := { c.api with apiKey := key } }) c
  let c ← override env "MAILGUN_REGION" withRegion c
  let c ← override env "MAILGUN_BASE_URL" (fun url c => .ok { c with api := { c.api with baseUrl := some url } }) c
  let c ← override env "PROVIDER_MAX_CONCURRENCY" withConcurrency c
  override env "PROVIDER_HEALTH_ADDR" withAddress c

/-! ## The whole -/

/-- The configuration that a path, or else the standard places, and the environment give, checked. -/
def load (names : HostNames) (complaints : Json.Complaints) (env : Environment) (path : Option String) :
    Except SetupError Config := do
  let read ← match path <|> env.probe? with
    | some path => loadFile complaints env path
    | none => .ok {}
  let c ← applyVariables complaints env read
  c.check names
  return c

end MailReconciler.Config
