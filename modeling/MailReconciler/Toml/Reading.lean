/-
Reading a TOML document: lines of headers and of keys with values.
-/
import MailReconciler.Toml.Quoted
import MailReconciler.Toml.Table

namespace MailReconciler.Toml

/-! ## Between tokens -/

/-- Drops spaces and tabs from the front of a text. -/
def dropSpaces (text : List Char) : List Char := text.dropWhile fun c => c = ' ' ∨ c = '\t'

/-- Drops the rest of a comment up to the end of its line. -/
def dropComment? : List Char → Option (List Char)
  | [] => some []
  | c :: rest =>
    if (dropNewline? (c :: rest)).isSome then some (c :: rest)
    else if isTextChar c then dropComment? rest
    else none

/-- Drops spaces, line breaks and comments from the front of a text. -/
def dropFiller? : (fuel : Nat) → List Char → Option (List Char)
  | 0, _ => none
  | fuel + 1, text =>
    match dropSpaces text with
    | '#' :: rest => (dropComment? rest).bind (dropFiller? fuel)
    | rest =>
      match dropNewline? rest with
      | some rest => dropFiller? fuel rest
      | none => some rest

/-- Drops what may stand between the items of a list. -/
def dropBetween? (text : List Char) : Option (List Char) := dropFiller? (text.length + 1) text

/-! ## Keys -/

/-- The characters of keys without quotes. -/
def isKeyChar (c : Char) : Bool := Text.isAlphanumeric c || c = '-' || c = '_'

/-- A key, and what follows. -/
def key? (text : List Char) : Option (String × List Char) :=
  let word := text.takeWhile isKeyChar
  if word.isEmpty then lineString? text else some (String.ofList word, text.drop word.length)

/-- Keys with dots between them, and what follows. -/
def keys? : (fuel : Nat) → List Char → Option (List String × List Char)
  | 0, _ => none
  | fuel + 1, text =>
    match key? text with
    | none => none
    | some (key, rest) =>
      match dropSpaces rest with
      | '.' :: rest => (keys? fuel (dropSpaces rest)).map fun (keys, rest) => (key :: keys, rest)
      | rest => some ([key], rest)

/-- A dotted key, and what follows. -/
def path? (text : List Char) : Option (List String × List Char) := keys? (text.length + 1) text

/-- Drops the sign between a key and its value. -/
def dropEquals? : List Char → Option (List Char)
  | '=' :: rest => some (dropSpaces rest)
  | _ => none

/-! ## Values -/

/-- A scalar without quotes, and what follows. A time may stand behind a date with one space between them. -/
def bare? (text : List Char) : Option (Json × List Char) :=
  let word := text.takeWhile isScalarChar
  let rest := text.drop word.length
  let (word, rest) :=
    match dropDate? word, rest with
    | some [], ' ' :: d :: more =>
      if Decimal.isDigit d then
        let time := (d :: more).takeWhile isScalarChar
        (word ++ ' ' :: time, (d :: more).drop time.length)
      else (word, rest)
    | _, _ => (word, rest)
  (scalar? word).map (·, rest)

mutual

/-- The value at the front of a text, and what follows. Lists and tables may be nested up to `depth` deep. -/
def value? (fuel depth : Nat) (text : List Char) : Option (Json × List Char) :=
  match fuel with
  | 0 => none
  | fuel + 1 =>
    match text, depth with
    | '[' :: rest, depth + 1 => (items? fuel depth rest).map fun (items, rest) => (.array items, rest)
    | '{' :: rest, depth + 1 => (members? fuel depth [] rest).map fun (entries, rest) => (entries.toJson, rest)
    | '[' :: _, 0 | '{' :: _, 0 => none
    | text, _ =>
      match text with
      | '"' :: _ | '\'' :: _ => (string? text).map fun (s, rest) => (.string s, rest)
      | text => bare? text

/-- The items of a list up to its closing bracket, and what follows. -/
def items? (fuel depth : Nat) (text : List Char) : Option (List Json × List Char) :=
  match fuel with
  | 0 => none
  | fuel + 1 =>
    match dropBetween? text with
    | none => none
    | some (']' :: rest) => some ([], rest)
    | some rest =>
      match value? fuel depth rest with
      | none => none
      | some (item, rest) =>
        match dropBetween? rest with
        | some (',' :: rest) => (items? fuel depth rest).map fun (items, rest) => (item :: items, rest)
        | some (']' :: rest) => some ([item], rest)
        | _ => none

/-- The entries of a table in place up to its closing brace, added to those before, and what follows. -/
def members? (fuel depth : Nat) (entries : Entries) (text : List Char) : Option (Entries × List Char) :=
  match fuel with
  | 0 => none
  | fuel + 1 =>
    match dropBetween? text with
    | none => none
    | some ('}' :: rest) => some (entries, rest)
    | some rest =>
      match path? rest with
      | none => none
      | some (path, rest) =>
        match (dropEquals? rest).bind (value? fuel depth) with
        | none => none
        | some (json, rest) =>
          match entries.addDotted? path json, dropBetween? rest with
          | some entries, some (',' :: rest) => members? fuel depth entries rest
          | some entries, some ('}' :: rest) => some (entries, rest)
          | _, _ => none

end

/-- Lists and tables in place may be nested this deep. -/
def maxDepth : Nat := 80

/-! ## Lines -/

/-- What is read so far: the entries, and the path of the table that the last header opened. -/
structure State where
  entries : Entries
  current : List String

/-- The key of a header up to its closing bracket, and what follows. -/
def headerPath? (text : List Char) : Option (List String × List Char) := do
  let (path, rest) ← path? (dropSpaces text)
  match rest with
  | ']' :: rest => some (path, rest)
  | _ => none

/-- Takes one header, or one key with its value, in. -/
def statement? (s : State) (text : List Char) : Option (State × List Char) :=
  match text with
  | '[' :: '[' :: rest => do
    let (path, rest) ← headerPath? rest
    match rest with
    | ']' :: rest => return (⟨← s.entries.openItem? path, path⟩, rest)
    | _ => none
  | '[' :: rest => do
    let (path, rest) ← headerPath? rest
    return (⟨← s.entries.openTable? path, path⟩, rest)
  | text => do
    let (path, rest) ← path? text
    let (json, rest) ← value? (text.length + 1) maxDepth (← dropEquals? rest)
    return ({ s with entries := ← s.entries.inside? s.current (Entries.addDotted? path json) }, rest)

/-- Drops a comment, if there is one, and the end of a line. -/
def endLine? (text : List Char) : Option (List Char) := do
  let rest ← match dropSpaces text with
    | '#' :: rest => dropComment? rest
    | rest => some rest
  if rest.isEmpty then some [] else dropNewline? rest

/-- Takes all lines in. -/
def lines (s : State) : (fuel : Nat) → List Char → Option State
  | 0, _ => none
  | fuel + 1, text =>
    match dropBetween? text with
    | none => none
    | some [] => some s
    | some text =>
      match statement? s text with
      | none => none
      | some (s, rest) =>
        match endLine? rest with
        | none => none
        | some rest => lines s fuel rest

/-- The value of a document: an object with its entries. A mark of the byte order in front of it does not count. -/
def read? (text : String) : Option Json :=
  let text := match text.toList with
    | '\uFEFF' :: rest => rest
    | text => text
  (lines ⟨[], []⟩ (text.length + 1) text).map fun s => s.entries.toJson

end MailReconciler.Toml
