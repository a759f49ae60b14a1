/-
Reading a command line word by word. Options may stand before the command and behind it; behind it they win. An option
settles when the next one is met or the words end, so a fault that shows at once comes before a fault of its value.
-/
import MailReconciler.CommandLine.Basic

namespace MailReconciler.CommandLine

/-! ## Options -/

/-- The places where words are read: before a command, or behind one. -/
inductive Level where
  | top
  | serve
  | observe
deriving Repr, DecidableEq

/-- The place behind a command. -/
def Level.behind? (command : String) : Option Level :=
  match command with
  | "serve" => some .serve
  | "observe" => some .observe
  | _ => none

/-- Whether a word names a command; asking for help is one of them. -/
def isCommand (word : String) : Bool := word = "help" || (Level.behind? word).isSome

/-- What is given by name. -/
inductive Switch where
  | config
  | debug
  | logFormat
  | kind
  | domain
  | help
  | version
deriving Repr, DecidableEq

namespace Switch

/-- Every option. -/
def all : List Switch := [.config, .debug, .logFormat, .kind, .domain, .help, .version]

/-- The name of an option behind two dashes. -/
def long : Switch → String
  | .config => "config"
  | .debug => "debug"
  | .logFormat => "log-format"
  | .kind => "kind"
  | .domain => "domain"
  | .help => "help"
  | .version => "version"

/-- The letter of an option behind one dash. -/
def short? : Switch → Option Char
  | .config => some 'c'
  | .help => some 'h'
  | .version => some 'V'
  | _ => none

/-- Whether an option is known at a place. -/
def isKnown (level : Level) : Switch → Bool
  | .kind | .domain => level = .observe
  | .version => level = .top
  | .config | .debug | .logFormat | .help => true

/-- Whether an option takes a value. -/
def takesValue : Switch → Bool
  | .config | .logFormat | .kind | .domain => true
  | .debug | .help | .version => false

/-- The option with a name. -/
def ofLong? (level : Level) (name : String) : Option Switch :=
  all.find? fun s => s.isKnown level && s.long == name

/-- The option with a letter. -/
def ofShort? (level : Level) (c : Char) : Option Switch :=
  all.find? fun s => s.isKnown level && s.short? == some c

end Switch

/-! ## What is given -/

/-- What is given at one place. -/
structure Given where
  config : Option String := none
  debug : Bool := false
  logFormat : Option LogFormat := none
  kind : Option ResourceKind := none
  domain : Option String := none
  ids : List String := []
deriving Repr, DecidableEq

namespace Given

/-- A value for an option that must not have one yet. -/
def once {α : Type} (present : Option α) (read : Except Refusal α) : Except Refusal (Option α) :=
  if present.isSome then .error .repeatedArgument else read.map some

/-- Gives an option its value. -/
def assign (g : Given) (value : String) : Switch → Except Refusal Given
  | .config => return { g with
      config := ← once g.config (if value.isEmpty then .error .badValue else .ok value) }
  | .logFormat => return { g with
      logFormat := ← once g.logFormat (((Word.ofWord? value).map Except.ok).getD (.error .badValue)) }
  | .kind => return { g with
      kind := ← once g.kind (((Word.parse? value).map Except.ok).getD (.error .unknownKind)) }
  | .domain => return { g with domain := ← once g.domain (.ok value) }
  | .debug | .help | .version => .error .needlessValue

/-- Takes in an option without a value. -/
def mark (g : Given) : Switch → Except Refusal Given
  | .debug => if g.debug then .error .repeatedArgument else .ok { g with debug := true }
  | .help => .error .helpAsked
  | .version => .error .versionAsked
  | .config | .logFormat | .kind | .domain => .error .badValue

end Given

/-! ## Words -/

/-- What is given by the words read so far. -/
structure Progress where
  given : Given := {}
  /-- The option that was named last, with its value once that is met. -/
  named : Option (Switch × Option String) := none
  /-- Whether two dashes have ended the options. -/
  plain : Bool := false
deriving Repr, DecidableEq

namespace Progress

/-- Whether the next word, unless it is an option, is a value. -/
def awaits (p : Progress) : Bool :=
  match p.named with
  | some (_, none) => !p.plain
  | _ => false

/-- Takes in the option that was named last. -/
def settle (p : Progress) : Except Refusal Progress :=
  match p.named with
  | none => .ok p
  | some (_, none) => .error .badValue
  | some (s, some value) => return { p with given := ← p.given.assign value s, named := none }

/-- Names an option whose value is to come. -/
def await (p : Progress) (s : Switch) : Except Refusal Progress := return { ← p.settle with named := some (s, none) }

/-- Takes in an option with a value attached to it. -/
def assign (p : Progress) (s : Switch) (value : List Char) : Except Refusal Progress := do
  let p ← p.settle
  return { p with given := ← p.given.assign (String.ofList value) s }

/-- Takes in an option without a value. -/
def mark (p : Progress) (s : Switch) : Except Refusal Progress := do
  let p ← p.settle
  return { p with given := ← p.given.mark s }

/-- Reads what stands behind two dashes: a name, and perhaps a value behind an equals sign. -/
def readLong (level : Level) (body : List Char) (p : Progress) : Except Refusal Progress :=
  match Switch.ofLong? level (String.ofList (body.takeWhile (· ≠ '='))) with
  | none => .error .unknownArgument
  | some s =>
    match body.dropWhile (· ≠ '=') with
    | [] => if s.takesValue then p.await s else p.mark s
    | _ :: value => if s.takesValue then p.assign s value else .error .needlessValue

/-- Reads what stands behind one dash: letters, of which one that takes a value takes the rest. -/
def readShort (level : Level) : List Char → Progress → Except Refusal Progress
  | [], p => .ok p
  | c :: rest, p =>
    match Switch.ofShort? level c with
    | none => .error .unknownArgument
    | some s =>
      if s.takesValue then
        match rest with
        | [] => p.await s
        | '=' :: value => p.assign s value
        | value => p.assign s value
      else do readShort level rest (← p.mark s)

/-- Reads a word that is neither an option nor a value. -/
def readPlain (level : Level) (word : String) (p : Progress) : Except Refusal Progress :=
  match level with
  | .observe => do
    let p ← p.settle
    return { p with given := { p.given with ids := p.given.ids ++ [word] } }
  | .serve => .error .unknownArgument
  | .top => .error (if p.plain && isCommand word then .unknownArgument else .unknownCommand)

/-- Reads a word. A single dash is no option. -/
def readWord (level : Level) (word : String) (p : Progress) : Except Refusal Progress :=
  if p.plain then p.readPlain level word
  else match word.toList with
    | ['-', '-'] => .ok { p with plain := true }
    | '-' :: '-' :: body => p.readLong level body
    | '-' :: c :: rest => p.readShort level (c :: rest)
    | _ =>
      match p.named with
      | some (s, none) => .ok { p with named := some (s, some word) }
      | _ => p.readPlain level word

/-- Whether a command may come next. -/
def mayBegin (level : Level) (p : Progress) : Bool := level = .top && !p.plain && !p.awaits

end Progress

/-- What comes of asking for help on some commands. None of them has commands of its own. -/
def helpOn (words : List String) : Refusal :=
  match words with
  | [] => .helpAsked
  | [word] => if isCommand word then .helpAsked else .unknownCommand
  | _ => .unknownCommand

/-- Reads words up to their end or to a command; behind a command there are more words for another place. -/
def readWords (level : Level) : List String → Progress → Except Refusal (Progress × Option (Level × List String))
  | [], p => .ok (p, none)
  | word :: rest, p =>
    if p.mayBegin level && word = "help" then .error (helpOn rest)
    else match if p.mayBegin level then Level.behind? word else none with
      | some behind => .ok (p, some (behind, rest))
      | none => do readWords level rest (← p.readWord level word)

/-! ## The whole -/

/-- The command that is given at a place. -/
def Given.command? (g : Given) : Level → Except Refusal (Option Command)
  | .top => .ok none
  | .serve => .ok (some .serve)
  | .observe =>
    match g.kind, g.ids with
    | some kind, _ :: _ => .ok (some (.observe kind g.domain g.ids))
    | _, _ => .error .missingArgument

/-- What is given at a place when its words have ended. A default of the configuration's path must have text wherever
no path is given. -/
def Progress.finish (level : Level) (config : Option String) (p : Progress) :
    Except Refusal (Given × Option Command) := do
  let given := (← p.settle).given
  if given.config.isNone && config = some "" then .error .badValue
  return (given, ← given.command? level)

/-- Reads a command line; `config` is the path of the configuration if none is given. -/
def parse (config : Option String) (words : List String) : Except Refusal CommandLine := do
  let (before, behind) ← readWords .top words {}
  let (inner, command) ← match behind with
    | none => pure ({}, none)
    | some (level, rest) => (← readWords level rest {}).1.finish level config
  let (outer, _) ← before.finish .top config
  return {
    config := inner.config <|> outer.config <|> config
    debug := inner.debug || outer.debug
    logFormat := (inner.logFormat <|> outer.logFormat).getD .text
    command }

end MailReconciler.CommandLine
