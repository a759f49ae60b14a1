/-
Writing a JSON value without blanks. Only quotes, backslashes and control characters are escaped.
-/
import MailReconciler.Json.Basic

namespace MailReconciler.Json

/-- The lower-case hexadecimal digit of a number below sixteen. -/
def hexChar (n : Nat) : Char := Nat.digitChar n

/-- A character inside a string. -/
def escape (c : Char) : List Char :=
  if c = '"' then ['\\', '"']
  else if c = '\\' then ['\\', '\\']
  else if c = '\x08' then ['\\', 'b']
  else if c = '\x0c' then ['\\', 'f']
  else if c = '\n' then ['\\', 'n']
  else if c = '\r' then ['\\', 'r']
  else if c = '\t' then ['\\', 't']
  else if c.toNat < 0x20 then ['\\', 'u', '0', '0', hexChar (c.toNat / 16), hexChar (c.toNat % 16)]
  else [c]

/-- A string in quotes, in front of `tail`. -/
def writeString (s : String) (tail : List Char) : List Char :=
  '"' :: (s.toList.flatMap escape ++ '"' :: tail)

/-- The text of a number; a double that is not finite is null. -/
def Number.render : Number → String
  | .integer n => toString n
  | .double x =>
    match Decimal.Content.ofFloat x with
    | .finite _ => Decimal.json.render x
    | _ => "null"

mutual

/-- A value in front of `tail`. -/
def write : Json → List Char → List Char
  | .null, tail => "null".toList ++ tail
  | .bool b, tail => (if b then "true" else "false").toList ++ tail
  | .number n, tail => n.render.toList ++ tail
  | .string s, tail => writeString s tail
  | .array items, tail => '[' :: writeItems true items (']' :: tail)
  | .object members, tail => '{' :: writeMembers true members ('}' :: tail)
  | .unreadable, tail => "null".toList ++ tail

/-- Items with commas between them. -/
def writeItems (first : Bool) : List Json → List Char → List Char
  | [], tail => tail
  | item :: rest, tail =>
    (if first then [] else [',']) ++ write item (writeItems false rest tail)

/-- Members with commas between them. -/
def writeMembers (first : Bool) : List (String × Json) → List Char → List Char
  | [], tail => tail
  | (name, value) :: rest, tail =>
    (if first then [] else [',']) ++ writeString name (':' :: write value (writeMembers false rest tail))

end

/-- The text of a value. -/
def render (j : Json) : String := String.ofList (j.write [])

end MailReconciler.Json
