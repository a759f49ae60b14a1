/-
What a configuration is loaded from: files, looked up by their paths, and environment variables.
-/
import MailReconciler.Table
import MailReconciler.Text.Blank
import MailReconciler.Text.Split
import MailReconciler.Text.Utf8

namespace MailReconciler

/-! ## Files -/

/-- What is found at a path. -/
inductive Found where
  | file (bytes : List UInt8)
  | directory
  | missing
  /-- A file stands where the path needs a directory. -/
  | notDirectory
deriving Repr, DecidableEq

namespace Found

/-- Whether there is anything. -/
def present : Found → Bool
  | .file _ | .directory => true
  | .missing | .notDirectory => false

/-- Whether there is a file. -/
def isFile : Found → Bool
  | .file _ => true
  | _ => false

/-- The bytes of a file, or the reason why there are none. -/
def bytes : Found → Except String (List UInt8)
  | .file bytes => .ok bytes
  | .directory => .error "Is a directory (os error 21)"
  | .missing => .error "No such file or directory (os error 2)"
  | .notDirectory => .error "Not a directory (os error 20)"

/-- The text of a file, or the reason why there is none. -/
def text (f : Found) : Except String String := do
  match Text.decodeStrict? (← f.bytes) with
  | some text => .ok text
  | none => .error "stream did not contain valid UTF-8"

end Found

/-- A tree of files and directories, by the names on the way from its root, seen from one directory. -/
structure FileTree where
  files : Table (List String) (List UInt8)
  directories : List (List String)
  /-- The directory from which relative paths start. -/
  here : List String

namespace FileTree

/-- The names that a path is made of. -/
def namesOf (path : String) : List String := (Text.splitAt '/' path.toList).map String.ofList

/-- Whether there is a directory at a place: a known one, the root, or one on the way to something known. -/
def isDirectory (t : FileTree) (place : List String) : Bool :=
  place.isPrefixOf t.here || t.directories.any place.isPrefixOf ||
    t.files.entries.any fun (file, _) => place.isPrefixOf file && file ≠ place

/-- What is at a place. -/
def at' (t : FileTree) (place : List String) : Found :=
  match t.files.get? place with
  | some bytes => .file bytes
  | none => if t.isDirectory place then .directory else .missing

/-- Walks along some names from a place. Every place but the last must be a directory. -/
def walk (t : FileTree) (place : List String) : List String → Found
  | [] => t.at' place
  | name :: rest =>
    match t.at' place with
    | .directory =>
      if name = "" ∨ name = "." then t.walk place rest
      else if name = ".." then t.walk place.dropLast rest
      else t.walk (place ++ [name]) rest
    | .file _ => .notDirectory
    | other => other

/-- What is found at a path. -/
def look (t : FileTree) (path : String) : Found :=
  match namesOf path with
  | [""] => .missing
  | "" :: names => t.walk [] names
  | names => t.walk t.here names

/-- The place that a relative path leads to, whether there is something or not. -/
def placeOf (t : FileTree) (path : String) : List String :=
  (namesOf path).foldl (fun place name =>
    if name = "" ∨ name = "." then place else if name = ".." then place.dropLast else place ++ [name]) t.here

/-- Adds a file, and the directories on the way to it. -/
def addFile (t : FileTree) (path : String) (bytes : List UInt8) : FileTree :=
  { t with files := t.files.insert (t.placeOf path) bytes }

/-- Adds a directory. -/
def addDirectory (t : FileTree) (path : String) : FileTree :=
  { t with directories := t.placeOf path :: t.directories }

end FileTree

/-! ## Environments -/

/-- What a configuration is loaded from. -/
structure Environment where
  look : String → Found
  value? : String → Option String
  /-- The directory of the program, with a slash at its end, when it is known. -/
  programPlace : Option String

namespace Environment

/-- The value of a variable that is set to more than blanks. -/
def set? (env : Environment) (name : String) : Option String :=
  (env.value? name).filter fun value => !Text.isBlankText value

/-- The names under which a configuration is looked for. -/
def configNames : List String := ["provider-mailgun.toml", "config.toml", "config.json"]

/-- The paths at which a configuration is looked for, the most wanted first. -/
def candidates (env : Environment) : List String :=
  (["", "../", "../../"] ++ env.programPlace.toList).flatMap fun place => configNames.map (place ++ ·)

/-- The first path at which there is a configuration. -/
def probe? (env : Environment) : Option String := env.candidates.find? fun path => (env.look path).isFile

end Environment
end MailReconciler
