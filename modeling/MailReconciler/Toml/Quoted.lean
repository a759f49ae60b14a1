/-
Quoted strings of TOML: basic ones with escapes and literal ones without, on one line or on several.
-/
import MailReconciler.Toml.Scalar

namespace MailReconciler.Toml

/-! ## Characters -/

/-- The characters that may stand in a string or a comment as they are. -/
def isTextChar (c : Char) : Bool := c = '\t' || (0x20 ≤ c.toNat && c.toNat ≠ 0x7F)

/-- Drops a line break from the front of a text. -/
def dropNewline? : List Char → Option (List Char)
  | '\n' :: rest => some rest
  | '\r' :: '\n' :: rest => some rest
  | _ => none

/-- The character of a code in hexadecimal digits, and what follows. -/
def codePoint? (places : Nat) (text : List Char) : Option (Char × List Char) :=
  let digits := text.take places
  let code := valueOf 16 digits
  if digits.length = places ∧ digits.all (isDigitOf 16) ∧ code.isValidChar then
    some (Char.ofNat code, text.drop places)
  else none

/-- The character of an escape behind its backslash, and what follows. -/
def escape? : List Char → Option (Char × List Char)
  | 'b' :: rest => some ('\x08', rest)
  | 't' :: rest => some ('\t', rest)
  | 'n' :: rest => some ('\n', rest)
  | 'f' :: rest => some ('\x0c', rest)
  | 'r' :: rest => some ('\r', rest)
  | 'e' :: rest => some ('\x1b', rest)
  | '"' :: rest => some ('"', rest)
  | '\\' :: rest => some ('\\', rest)
  | 'x' :: rest => codePoint? 2 rest
  | 'u' :: rest => codePoint? 4 rest
  | 'U' :: rest => codePoint? 8 rest
  | _ => none

/-! ## One line -/

/-- The characters of a basic string up to its closing quote, and what follows. -/
def basic? : (fuel : Nat) → List Char → Option (List Char × List Char)
  | 0, _ => none
  | fuel + 1, text =>
    match text with
    | '"' :: rest => some ([], rest)
    | '\\' :: rest => do
      let (c, rest) ← escape? rest
      let (s, rest) ← basic? fuel rest
      return (c :: s, rest)
    | c :: rest =>
      if isTextChar c then (basic? fuel rest).map fun (s, rest) => (c :: s, rest) else none
    | [] => none

/-- The characters of a literal string up to its closing quote, and what follows. -/
def literal? : List Char → Option (List Char × List Char)
  | '\'' :: rest => some ([], rest)
  | c :: rest => if isTextChar c then (literal? rest).map fun (s, rest) => (c :: s, rest) else none
  | [] => none

/-! ## Several lines -/

/-- Splits the quotes from the front of a text. -/
def takeQuotes (quote : Char) (text : List Char) : Nat × List Char :=
  ((text.takeWhile (· = quote)).length, text.dropWhile (· = quote))

/-- Drops blanks and line breaks from the front of a text. -/
def dropBlanks : List Char → List Char
  | '\r' :: '\n' :: rest => dropBlanks rest
  | c :: rest => if c = ' ' ∨ c = '\t' ∨ c = '\n' then dropBlanks rest else c :: rest
  | [] => []

/-- What follows a backslash that joins lines: nothing but blanks stands behind it on its line. -/
def joinLines? (text : List Char) : Option (List Char) :=
  (dropNewline? (text.dropWhile fun c => c = ' ' ∨ c = '\t')).map dropBlanks

/-- The characters of a string of several lines up to three closing quotes, before which two more may stand, and what
follows. -/
def lines? (quote : Char) (escapes : Bool) : (fuel : Nat) → List Char → Option (List Char × List Char)
  | 0, _ => none
  | fuel + 1, text =>
    match text with
    | [] => none
    | c :: rest =>
      let push (head rest : List Char) : Option (List Char × List Char) :=
        (lines? quote escapes fuel rest).map fun (s, rest) => (head ++ s, rest)
      if c = quote then
        let (n, behind) := takeQuotes quote text
        if n < 3 then push (List.replicate n quote) behind
        else if n ≤ 5 then some (List.replicate (n - 3) quote, behind)
        else none
      else if escapes && c = '\\' then
        match joinLines? rest with
        | some rest => push [] rest
        | none =>
          match escape? rest with
          | some (e, rest) => push [e] rest
          | none => none
      else
        match dropNewline? text with
        | some behind => push (text.take (text.length - behind.length)) behind
        | none => if isTextChar c then push [c] rest else none

/-- A string of several lines; a line break right behind the opening quotes does not count. -/
def linesFrom? (quote : Char) (escapes : Bool) (text : List Char) : Option (List Char × List Char) :=
  lines? quote escapes (text.length + 1) ((dropNewline? text).getD text)

/-! ## Any string -/

/-- The string at the front of a text on one line, if it begins with a quote, and what follows. -/
def lineString? : List Char → Option (String × List Char)
  | '"' :: rest => (basic? (rest.length + 1) rest).map fun (s, rest) => (String.ofList s, rest)
  | '\'' :: rest => (literal? rest).map fun (s, rest) => (String.ofList s, rest)
  | _ => none

/-- The string at the front of a text, if it begins with a quote, and what follows. -/
def string? : List Char → Option (String × List Char)
  | '"' :: '"' :: '"' :: rest => (linesFrom? '"' true rest).map fun (s, rest) => (String.ofList s, rest)
  | '\'' :: '\'' :: '\'' :: rest => (linesFrom? '\'' false rest).map fun (s, rest) => (String.ofList s, rest)
  | text => lineString? text

end MailReconciler.Toml
