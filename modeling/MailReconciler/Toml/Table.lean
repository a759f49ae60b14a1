/-
Tables of a TOML document while it is read. A table can be opened by a header once, and only what a header did not open
can be extended by dotted keys; values written in place are closed.
-/
import MailReconciler.Json.Basic

namespace MailReconciler.Toml

/-- How a table came to be. -/
inductive Origin where
  /-- Only named on the way to another. -/
  | implied
  /-- Opened by dotted keys. -/
  | dotted
  /-- Opened by its own header. -/
  | header
deriving Repr, DecidableEq

/-- What stands behind a key. -/
inductive Node where
  | value (json : Json)
  | table (origin : Origin) (entries : List (String × Node))
  /-- Tables opened one after another by headers in double brackets, the last first. -/
  | tables (items : List (List (String × Node)))

/-- The entries of a table in the order of their creation. -/
abbrev Entries := List (String × Node)

namespace Node

mutual

/-- A node as data. -/
def toJson : Node → Json
  | .value json => json
  | .table _ entries => .object (membersOf entries)
  | .tables items => .array (itemsOf items).reverse

/-- Entries as members. -/
def membersOf : List (String × Node) → List (String × Json)
  | [] => []
  | (key, node) :: rest => (key, node.toJson) :: membersOf rest

/-- Tables as items. -/
def itemsOf : List (List (String × Node)) → List Json
  | [] => []
  | entries :: rest => .object (membersOf entries) :: itemsOf rest

end

end Node

namespace Entries

/-- What stands behind a key. -/
def get? (entries : Entries) (key : String) : Option Node := List.lookup key entries

/-- Puts a node behind a key, in the place of the one that is there. -/
def put (entries : Entries) (key : String) (node : Node) : Entries :=
  if (entries.get? key).isSome then entries.map fun (k, old) => (k, if k = key then node else old)
  else entries ++ [(key, node)]

/-- Whether dotted keys may enter a table: none that has a header, and at their end only one that dotted keys made. -/
def letsDotted (origin : Origin) (isEnd : Bool) : Bool :=
  match origin with
  | .header => false
  | .implied => !isEnd
  | .dotted => true

/-- Changes the table at the end of a path. Tables on the way are made if they are missing; of tables in a row the last
is meant, which is no end for dotted keys. -/
def within? (isDotted : Bool) (path : List String) (change : Entries → Option Entries) (entries : Entries) :
    Option Entries :=
  match path with
  | [] => change entries
  | key :: path =>
    match entries.get? key with
    | none =>
      (within? isDotted path change []).map fun inner =>
        entries.put key (.table (if isDotted then .dotted else .implied) inner)
    | some (.table origin inner) =>
      if isDotted && !letsDotted origin path.isEmpty then none
      else (within? isDotted path change inner).map fun inner => entries.put key (.table origin inner)
    | some (.tables (last :: others)) =>
      if isDotted && path.isEmpty then none
      else (within? isDotted path change last).map fun last => entries.put key (.tables (last :: others))
    | some _ => none

/-- Adds a value behind a key that is free. -/
def add? (key : String) (json : Json) (entries : Entries) : Option Entries :=
  if (entries.get? key).isSome then none else some (entries.put key (.value json))

/-- Adds a value behind a dotted key. -/
def addDotted? (path : List String) (json : Json) (entries : Entries) : Option Entries :=
  match path.getLast? with
  | none => none
  | some key => entries.within? true path.dropLast (add? key json)

/-- Opens a table by its header. -/
def openTable? (path : List String) (entries : Entries) : Option Entries :=
  match path.getLast? with
  | none => none
  | some key =>
    entries.within? false path.dropLast fun inner =>
      match inner.get? key with
      | none => some (inner.put key (.table .header []))
      | some (.table .implied known) => some (inner.put key (.table .header known))
      | some _ => none

/-- Opens a further table of a row by its header. -/
def openItem? (path : List String) (entries : Entries) : Option Entries :=
  match path.getLast? with
  | none => none
  | some key =>
    entries.within? false path.dropLast fun inner =>
      match inner.get? key with
      | none => some (inner.put key (.tables [[]]))
      | some (.tables items) => some (inner.put key (.tables ([] :: items)))
      | some _ => none

/-- Changes the table that the last header opened; the path names it. -/
def inside? (path : List String) (change : Entries → Option Entries) (entries : Entries) : Option Entries :=
  entries.within? false path change

/-- All entries as data. -/
def toJson (entries : Entries) : Json := .object (Node.membersOf entries)

end Entries
end MailReconciler.Toml
