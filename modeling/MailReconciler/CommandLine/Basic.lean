/-
What a command line asks for: a command, and the options that hold for every command.
-/
import MailReconciler.Resource.Vocabulary

namespace MailReconciler

/-- The formats of log lines. -/
inductive LogFormat where
  | text
  | json
deriving Repr, DecidableEq

instance : Word LogFormat where
  title := "LogFormat"
  all := [.text, .json]
  word
    | .text => "text"
    | .json => "json"

/-- What the program is asked to do. -/
inductive Command where
  /-- Answer for health, readiness and metrics. -/
  | serve
  /-- Observe resources of one kind by their identifiers. -/
  | observe (kind : ResourceKind) (domain : Option String) (ids : List String)
deriving Repr, DecidableEq

/-- A command line. Without a command the program serves. -/
structure CommandLine where
  config : Option String := none
  debug : Bool := false
  logFormat : LogFormat := .text
  command : Option Command := none
deriving Repr, DecidableEq

namespace CommandLine

/-- The least severity of the log lines that are written. -/
def logLevel (c : CommandLine) : String := if c.debug then "debug" else "info"

/-- Why a command line asks for nothing that could be done. -/
inductive Refusal where
  /-- It asks for help instead. -/
  | helpAsked
  /-- It asks for the version instead. -/
  | versionAsked
  | unknownArgument
  | unknownCommand
  /-- A value is missing, is empty where it must not be, or is none of the allowed words. -/
  | badValue
  /-- A word names no kind of resource. -/
  | unknownKind
  | missingArgument
  | repeatedArgument
  /-- A value is attached to an option that takes none. -/
  | needlessValue
deriving Repr, DecidableEq

/-- The text of a refusal. -/
def Refusal.message : Refusal → String
  | .helpAsked => "help was asked for"
  | .versionAsked => "the version was asked for"
  | .unknownArgument => "unexpected argument"
  | .unknownCommand => "unrecognized subcommand"
  | .badValue => "invalid or missing value"
  | .unknownKind => "invalid kind of resource"
  | .missingArgument => "required arguments were not provided"
  | .repeatedArgument => "an argument cannot be used multiple times"
  | .needlessValue => "unexpected value for an option without one"

end CommandLine
end MailReconciler
