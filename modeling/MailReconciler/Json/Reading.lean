/-
Reading a JSON text. One value stands between blanks; strings may not hold raw control characters; numbers
have no leading zeros.
-/
import MailReconciler.Json.Number
import MailReconciler.Text.Utf8

namespace MailReconciler.Json

open Text (Glyphs)

/-! ## Tokens -/

/-- Drops the blanks of JSON: space, tab, line feed and carriage return. -/
def skipBlanks : Glyphs → Glyphs
  | some c :: rest => if c = ' ' ∨ c = '\n' ∨ c = '\t' ∨ c = '\r' then skipBlanks rest else some c :: rest
  | text => text

/-- Drops the given characters from the front of a text. -/
def expect? (word : List Char) (text : Glyphs) : Option Glyphs :=
  match word, text with
  | [], text => some text
  | c :: word, some d :: text => if c = d then expect? word text else none
  | _ :: _, _ => none

/-- The value of a hexadecimal digit of either case. -/
def hexDigit? (c : Char) : Option Nat :=
  if '0' ≤ c ∧ c ≤ '9' then some (c.toNat - 48)
  else if 'a' ≤ c ∧ c ≤ 'f' then some (c.toNat - 87)
  else if 'A' ≤ c ∧ c ≤ 'F' then some (c.toNat - 55)
  else none

/-- Four hexadecimal digits at the front of a text. -/
def hexFour? : Glyphs → Option (Nat × Glyphs)
  | some a :: some b :: some c :: some d :: rest => do
    let a ← hexDigit? a
    let b ← hexDigit? b
    let c ← hexDigit? c
    let d ← hexDigit? d
    return (((a * 16 + b) * 16 + c) * 16 + d, rest)
  | _ => none

/-- The character that a one-letter escape stands for. -/
def escaped? (c : Char) : Option Char :=
  match c with
  | '"' => some '"'
  | '\\' => some '\\'
  | '/' => some '/'
  | 'b' => some '\x08'
  | 'f' => some '\x0c'
  | 'n' => some '\n'
  | 'r' => some '\r'
  | 't' => some '\t'
  | _ => none

/-- The second half of a surrogate pair at the front of a text. -/
def lowHalf? : Glyphs → Option (Nat × Glyphs)
  | some '\\' :: some 'u' :: rest =>
    match hexFour? rest with
    | some (n, rest) => if 0xDC00 ≤ n ∧ n ≤ 0xDFFF then some (n, rest) else none
    | none => none
  | _ => none

/-- The characters of a string up to its closing quote, `none` for each half of a surrogate pair that stands alone, and
what follows. -/
def string? : (fuel : Nat) → Glyphs → Option (Glyphs × Glyphs)
  | 0, _ => none
  | fuel + 1, text =>
    match text with
    | [] => none
    | none :: rest => (string? fuel rest).map fun (s, rest) => (none :: s, rest)
    | some c :: rest =>
      if c = '"' then some ([], rest)
      else if c = '\\' then
        match rest with
        | some 'u' :: rest =>
          match hexFour? rest with
          | none => none
          | some (n, rest) =>
            if 0xD800 ≤ n ∧ n ≤ 0xDBFF then
              match lowHalf? rest with
              | some (low, rest) =>
                (string? fuel rest).map fun (s, rest) =>
                  (some (Char.ofNat (0x10000 + (n - 0xD800) * 0x400 + (low - 0xDC00))) :: s, rest)
              | none => (string? fuel rest).map fun (s, rest) => (none :: s, rest)
            else if 0xDC00 ≤ n ∧ n ≤ 0xDFFF then
              (string? fuel rest).map fun (s, rest) => (none :: s, rest)
            else
              (string? fuel rest).map fun (s, rest) => (some (Char.ofNat n) :: s, rest)
        | some c :: rest =>
          match escaped? c with
          | some e => (string? fuel rest).map fun (s, rest) => (some e :: s, rest)
          | none => none
        | _ => none
      else if c.toNat < 0x20 then none
      else (string? fuel rest).map fun (s, rest) => (some c :: s, rest)

/-- The digits at the front of a text. -/
def takeDigits : Glyphs → List Char × Glyphs
  | some c :: rest =>
    if Decimal.isDigit c then
      let (digits, rest) := takeDigits rest
      (c :: digits, rest)
    else ([], some c :: rest)
  | text => ([], text)

/-- One or more digits at the front of a text. -/
def digits? (text : Glyphs) : Option (List Char × Glyphs) :=
  let (digits, rest) := takeDigits text
  if digits.isEmpty then none else some (digits, rest)

/-- The fraction at the front of a text, if it starts with a point; the outer `none` is an error. -/
def fraction? : Glyphs → Option (Option (List Char) × Glyphs)
  | some '.' :: rest => (digits? rest).map fun (digits, rest) => (some digits, rest)
  | text => some (none, text)

/-- The exponent at the front of a text, if it starts with `e`; the outer `none` is an error. -/
def exponent? : Glyphs → Option (Option (Bool × List Char) × Glyphs)
  | some c :: rest =>
    if c = 'e' ∨ c = 'E' then
      let (negative, rest) : Bool × Glyphs :=
        match rest with
        | some '-' :: rest => (true, rest)
        | some '+' :: rest => (false, rest)
        | rest => (false, rest)
      (digits? rest).map fun (digits, rest) => (some (negative, digits), rest)
    else some (none, some c :: rest)
  | text => some (none, text)

/-- The number token at the front of a text. -/
def token? (text : Glyphs) : Option (Token × Glyphs) := do
  let (negative, text) : Bool × Glyphs :=
    match text with
    | some '-' :: rest => (true, rest)
    | text => (false, text)
  let (whole, text) ← digits? text
  if whole.head? = some '0' ∧ whole.length ≠ 1 then none
  else
    let (fraction, text) ← fraction? text
    let (exponent, text) ← exponent? text
    return (⟨negative, whole, fraction, exponent⟩, text)

/-! ## Values -/

/-- The text of a string's characters, when all of them are there. -/
def textOf? (characters : Glyphs) : Option String := (characters.mapM id).map String.ofList

/-- An object with its members, unless a name cannot be read. -/
def ofMembers (members : List (Option String × Json)) : Json :=
  match members.mapM fun (name, value) => name.map (·, value) with
  | some members => .object members
  | none => .unreadable

mutual

/-- The value at the front of a text. -/
def value? : (fuel : Nat) → Glyphs → Option (Json × Glyphs)
  | 0, _ => none
  | fuel + 1, text =>
    match skipBlanks text with
    | some '"' :: rest =>
      (string? fuel rest).map fun (s, rest) => (((textOf? s).map Json.string).getD .unreadable, rest)
    | some '[' :: rest =>
      match skipBlanks rest with
      | some ']' :: rest => some (.array [], rest)
      | rest => (items? fuel rest).map fun (items, rest) => (.array items, rest)
    | some '{' :: rest =>
      match skipBlanks rest with
      | some '}' :: rest => some (.object [], rest)
      | rest => (members? fuel rest).map fun (members, rest) => (ofMembers members, rest)
    | some 't' :: rest => (expect? ['r', 'u', 'e'] rest).map (Json.bool true, ·)
    | some 'f' :: rest => (expect? ['a', 'l', 's', 'e'] rest).map (Json.bool false, ·)
    | some 'n' :: rest => (expect? ['u', 'l', 'l'] rest).map (Json.null, ·)
    | rest =>
      (token? rest).map fun (token, rest) => ((token.value?.map Json.number).getD .unreadable, rest)

/-- One or more items up to the closing bracket. -/
def items? : (fuel : Nat) → Glyphs → Option (List Json × Glyphs)
  | 0, _ => none
  | fuel + 1, text =>
    match value? fuel text with
    | none => none
    | some (item, rest) =>
      match skipBlanks rest with
      | some ',' :: rest => (items? fuel rest).map fun (items, rest) => (item :: items, rest)
      | some ']' :: rest => some ([item], rest)
      | _ => none

/-- One or more members up to the closing brace. -/
def members? : (fuel : Nat) → Glyphs → Option (List (Option String × Json) × Glyphs)
  | 0, _ => none
  | fuel + 1, text =>
    match skipBlanks text with
    | some '"' :: rest =>
      match string? fuel rest with
      | none => none
      | some (name, rest) =>
        match skipBlanks rest with
        | some ':' :: rest =>
          match value? fuel rest with
          | none => none
          | some (value, rest) =>
            match skipBlanks rest with
            | some ',' :: rest =>
              (members? fuel rest).map fun (members, rest) => ((textOf? name, value) :: members, rest)
            | some '}' :: rest => some ([(textOf? name, value)], rest)
            | _ => none
        | _ => none
    | _ => none

end

/-- The value that a whole text holds. -/
def read? (text : Glyphs) : Option Json :=
  match value? (text.length + 1) text with
  | some (value, rest) => if (skipBlanks rest).isEmpty then some value else none
  | none => none

/-- The value of a text. -/
def parse? (text : String) : Option Json := read? (Text.glyphs text)

/-- The value of some bytes. -/
def parseBytes? (bytes : List UInt8) : Option Json := read? (Text.decode bytes)

end MailReconciler.Json
