/-
The program. It reads its command line and its configuration, and then serves or observes. It has no sockets of its own:
requests to its server come as lines of the standard input, and the remote API is beyond its reach.
-/
import MailReconciler.CommandLine.Reading
import MailReconciler.Config.Loading
import MailReconciler.Json.Complaint
import MailReconciler.Json.Writing
import MailReconciler.Provider.Page
import MailReconciler.Provider.Sighting
import MailReconciler.Url.International

namespace MailReconciler.Program

/-! ## Surroundings -/

/-- What is found at a path of the file system. -/
def lookAt (path : String) : IO Found := do
  try
    return .file (← IO.FS.readBinFile path).toList
  catch
    | .inappropriateType _ 21 _ => return .directory
    | .inappropriateType _ _ _ => return .notDirectory
    | _ => return .missing

/-- The environment variables that a configuration is loaded from. -/
def variableNames : List String :=
  ["MAILGUN_CREDENTIALS_FILE", "MAILGUN_API_KEY", "MAILGUN_REGION", "MAILGUN_BASE_URL", "PROVIDER_MAX_CONCURRENCY",
    "PROVIDER_HEALTH_ADDR"]

/-- The environment of the program: the variables, and all files that a configuration may need. -/
def surroundings (path : Option String) : IO Environment := do
  let given ← variableNames.filterMapM fun name => return (← IO.getEnv name).map ((name, ·))
  let program := (← IO.appPath).toString
  let place := String.ofList (program.toList.reverse.dropWhile (· ≠ '/')).reverse
  let bare : Environment := ⟨fun _ => .missing, fun name => given.lookup name, some place⟩
  let paths := path.toList ++ bare.candidates ++ (given.lookup "MAILGUN_CREDENTIALS_FILE").toList
  let found ← paths.mapM fun path => return (path, ← lookAt path)
  return { bare with look := fun path => (found.lookup path).getD .missing }

/-- Random words for the waits between attempts. -/
def randomWords : IO RandomWords := do
  return .cycle (← (List.replicate 64 ()).mapM fun _ => return UInt64.ofNat (← IO.rand 0 (UInt64.size - 1)))

/-! ## Commands -/

/-- Answers one request line. -/
def answerLine (w : World Unit) (line : String) : IO Unit := do
  match (Text.splitAt ' ' (Text.trim line).toList).map String.ofList with
  | method :: target :: _ =>
    let page := Page.answer method target w
    IO.print ("HTTP/1.1 " ++ toString page.status ++ " " ++ Http.reason page.status ++ "\r\n")
    for contentType in page.contentType do
      IO.print ("content-type: " ++ contentType ++ "\r\n")
    IO.print ("content-length: " ++ toString page.body.utf8ByteSize ++ "\r\n\r\n" ++ page.body)
  | _ => return

/-- Answers requests until there are no more. -/
partial def serve (w : World Unit) : IO Unit := do
  let line ← (← IO.getStdin).getLine
  if !line.isEmpty then
    answerLine w line
    (← IO.getStdout).flush
    serve w

/-- Observes resources and prints a line for each; the exit code tells whether all of them could be observed. -/
def observeAll (p : Provider Unit) (kind : ResourceKind) (domain : Option String) (ids : List String)
    (w : World Unit) : IO UInt32 := do
  let (sightings, _, _) := p.observe .endless kind domain ids 0 w
  for sighting in sightings do
    IO.println sighting.toJson.render
  match sightings.countP Sighting.failed with
  | 0 => return 0
  | failed =>
    IO.eprintln ("Error: " ++ toString failed ++ " of " ++ toString sightings.length ++ " observations failed")
    return 1

/-- Does what a command line asks for. -/
def run (c : CommandLine) : IO UInt32 := do
  match Config.load .folded .placeless (← surroundings c.config) c.config with
  | .error e =>
    IO.eprintln ("Error: failed to load configuration: " ++ e.message)
    return 1
  | .ok config =>
    match Provider.overCarrier .folded .placeless config .offline (← randomWords) () with
    | .error e =>
      IO.eprintln ("Error: " ++ e.message)
      return 1
    | .ok (p, w) =>
      match c.command with
      | some (.observe kind domain ids) => observeAll p kind domain ids w
      | some .serve | none =>
        serve w
        return 0

/-- How the program is called. -/
def usage : String :=
  "Usage: provider-mailgun [--config <PATH>] [--debug] [--log-format <text|json>] [serve | observe --kind <KIND> " ++
    "[--domain <DOMAIN>] <IDS>... | help]"

end MailReconciler.Program

def main (arguments : List String) : IO UInt32 := do
  match MailReconciler.CommandLine.parse (← IO.getEnv "PROVIDER_CONFIG") arguments with
  | .error .helpAsked =>
    IO.println MailReconciler.Program.usage
    return 0
  | .error .versionAsked =>
    IO.println "provider-mailgun 0.1.0"
    return 0
  | .error refusal =>
    IO.eprintln ("error: " ++ refusal.message)
    return 2
  | .ok commandLine => MailReconciler.Program.run commandLine
