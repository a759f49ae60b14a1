/-
Scalars of TOML that are written without quotes: truth values, integers, floats, dates and times.
-/
import MailReconciler.Decimal.Reading
import MailReconciler.Json.Basic
import MailReconciler.Text.Percent

namespace MailReconciler.Toml

/-! ## Digits -/

/-- The digits of a base with single underscores between them, as one run without the underscores. -/
def digitsOf? (isDigit : Char → Bool) : List Char → Option (List Char)
  | [] => none
  | [c] => if isDigit c then some [c] else none
  | c :: '_' :: rest => if isDigit c then (digitsOf? isDigit rest).map (c :: ·) else none
  | c :: rest => if isDigit c then (digitsOf? isDigit rest).map (c :: ·) else none

/-- A digit of a base of at most sixteen. -/
def isDigitOf (base : Nat) (c : Char) : Bool :=
  c.toNat < 128 && ((Text.hexByte? (UInt8.ofNat c.toNat)).any (· < base))

/-- The value of digits of a base. -/
def valueOf (base : Nat) (digits : List Char) : Nat :=
  digits.foldl (fun n c => n * base + (Text.hexByte? (UInt8.ofNat c.toNat)).getD 0) 0

/-! ## Numbers -/

/-- An integer as a value. One that fits in a hundred and twenty-eight bits but not in sixty-four is of no use to any
reader; a larger one is refused. -/
def ofInteger? (n : Int) : Option Json :=
  if -(1 <<< 63 : Nat) ≤ n ∧ n < (1 <<< 64 : Nat) then some (.int n)
  else if -(1 <<< 127 : Nat) ≤ n ∧ n < (1 <<< 128 : Nat) then some .unreadable
  else none

/-- Digits without a leading zero, of which there may be only one. -/
def plainDigits? (text : List Char) : Option (List Char) :=
  (digitsOf? Decimal.isDigit text).filter fun digits => digits.length = 1 ∨ digits.head? ≠ some '0'

/-- Splits a text in front of a character; nothing is behind one that is not there. -/
def splitAtAny (stops : List Char) (text : List Char) : List Char × Option (List Char) :=
  let first := text.takeWhile fun c => !stops.contains c
  match text.drop first.length with
  | [] => (first, none)
  | _ :: rest => (first, some rest)

/-- A float: an integer with a fraction, an exponent or both, or one of the words for what is not finite. Those too
large for a double are refused. -/
def float? (negative : Bool) (text : List Char) : Option Json := do
  let sign (x : Float) : Json := .number (.double (if negative then -x else x))
  if text = "inf".toList then return sign (1.0 / 0.0)
  else if text = "nan".toList then return sign (0.0 / 0.0)
  else
    let (mantissa, exponent) := splitAtAny ['e', 'E'] text
    let (whole, fraction) := splitAtAny ['.'] mantissa
    if exponent.isNone && fraction.isNone then none
    else
      let whole ← plainDigits? whole
      let fraction ← match fraction with
        | none => some []
        | some f => digitsOf? Decimal.isDigit f
      let power : Int ← match exponent with
        | none => some 0
        | some e =>
          let (minus, digits) := Decimal.takeSign e
          (digitsOf? Decimal.isDigit digits).map fun digits =>
            if minus then -(Decimal.ofDigits digits : Int) else Decimal.ofDigits digits
      let x := Decimal.nearest false (Decimal.ofDigits (whole ++ fraction)) (power - fraction.length)
      if x.isInf then none else return sign x

/-- An integer: decimal with an optional sign, or in another base behind its mark. -/
def integer? (text : List Char) : Option Json :=
  match text with
  | '0' :: 'x' :: rest => (digitsOf? (isDigitOf 16) rest).bind fun d => ofInteger? (valueOf 16 d)
  | '0' :: 'o' :: rest => (digitsOf? (isDigitOf 8) rest).bind fun d => ofInteger? (valueOf 8 d)
  | '0' :: 'b' :: rest => (digitsOf? (isDigitOf 2) rest).bind fun d => ofInteger? (valueOf 2 d)
  | text =>
    let (negative, digits) := Decimal.takeSign text
    (plainDigits? digits).bind fun d =>
      ofInteger? (if negative then -(Decimal.ofDigits d : Int) else Decimal.ofDigits d)

/-! ## Dates and times -/

/-- Exactly `places` digits at the front of a text, and what follows. -/
def fixed? (places : Nat) (text : List Char) : Option (Nat × List Char) :=
  let digits := text.take places
  if digits.length = places ∧ digits.all Decimal.isDigit then some (Decimal.ofDigits digits, text.drop places)
  else none

/-- Drops a character from the front of a text. -/
def drop? (c : Char) : List Char → Option (List Char)
  | d :: rest => if c = d then some rest else none
  | [] => none

/-- How many days a month has. -/
def daysIn (year month : Nat) : Nat :=
  if month = 2 then (if year % 4 = 0 ∧ (year % 100 ≠ 0 ∨ year % 400 = 0) then 29 else 28)
  else if [4, 6, 9, 11].contains month then 30
  else 31

/-- Drops a date from the front of a text. -/
def dropDate? (text : List Char) : Option (List Char) := do
  let (year, rest) ← fixed? 4 text
  let (month, rest) ← fixed? 2 (← drop? '-' rest)
  let (day, rest) ← fixed? 2 (← drop? '-' rest)
  if 1 ≤ month ∧ month ≤ 12 ∧ 1 ≤ day ∧ day ≤ daysIn year month then some rest else none

/-- Drops a fraction of a second from the front of a text, if there is one. -/
def dropFraction? : List Char → Option (List Char)
  | '.' :: rest => if rest.head?.any Decimal.isDigit then some (rest.dropWhile Decimal.isDigit) else none
  | text => some text

/-- Drops a time from the front of a text; seconds may be missing. -/
def dropTime? (text : List Char) : Option (List Char) := do
  let (hour, rest) ← fixed? 2 text
  let (minute, rest) ← fixed? 2 (← drop? ':' rest)
  if 23 < hour ∨ 59 < minute then none
  else
    match rest with
    | ':' :: rest =>
      let (second, rest) ← fixed? 2 rest
      if 60 < second then none else dropFraction? rest
    | rest => some rest

/-- Drops the distance from universal time from the front of a text, if there is one. -/
def dropOffset? (text : List Char) : Option (List Char) :=
  match text with
  | 'Z' :: rest | 'z' :: rest => some rest
  | '+' :: rest | '-' :: rest => do
    let (hour, rest) ← fixed? 2 rest
    let (minute, rest) ← fixed? 2 (← drop? ':' rest)
    if 23 < hour ∨ 59 < minute then none else some rest
  | text => some text

/-- Whether a text is a date, a time, or both. -/
def isMoment (text : List Char) : Bool :=
  let afterDate (rest : List Char) : Option (List Char) :=
    match rest with
    | 'T' :: rest | 't' :: rest | ' ' :: rest => (dropTime? rest).bind dropOffset?
    | rest => some rest
  ((dropDate? text).bind afterDate) == some [] || dropTime? text == some []

/-- A date or time as a value: a table with one entry that no reader asks for. -/
def ofMoment (text : List Char) : Json := .object [("$moment", .string (String.ofList text))]

/-! ## Any scalar -/

/-- The characters of scalars without quotes. -/
def isScalarChar (c : Char) : Bool :=
  Text.isAlphanumeric c || c = '+' || c = '-' || c = '.' || c = '_' || c = ':'

/-- The value that a scalar without quotes spells. -/
def scalar? (text : List Char) : Option Json :=
  if text = "true".toList then some (.bool true)
  else if text = "false".toList then some (.bool false)
  else if isMoment text then some (ofMoment text)
  else
    let (negative, size) := Decimal.takeSign text
    (integer? text).orElse fun _ => float? negative size

end MailReconciler.Toml
