/-
Lower-casing of whole texts. Every character is mapped on its own, with one exception: a capital sigma is
written as the final sigma at the end of a word.
-/
import MailReconciler.Text.CaseTable

namespace MailReconciler.Text

/-! ## One character -/

/-- The lower-case form of an ASCII letter; every other character is itself. -/
def lowerAscii (c : Char) : Char :=
  if 'A' ≤ c ∧ c ≤ 'Z' then Char.ofNat (c.toNat + 32) else c

/-- The lower-case form of a character away from any word: one character, but two for a dotted capital I. -/
def lowerAlone (c : Char) : List Char :=
  if c.toNat < 0x80 then [lowerAscii c]
  else if c = '\u0130' then ['i', '\u0307']
  else [((lowerRuns.findSome? (·.lower? c.toNat)).map Char.ofNat).getD c]

/-! ## Words -/

/-- Whether a character has a case. -/
def isCased (c : Char) : Bool := inRanges casedRanges c.toNat

/-- Whether a character is skipped when the letters around a sigma are looked for. -/
def isIgnorable (c : Char) : Bool := inRanges ignorableRanges c.toNat

/-- Whether the first character that counts is a letter with a case. -/
def meetsLetter (text : List Char) : Bool :=
  match text.dropWhile isIgnorable with
  | [] => false
  | c :: _ => isCased c

/-- The lower-case form of `c` between the characters `before`, nearest first, and `after`. -/
def lowerBetween (before : List Char) (c : Char) (after : List Char) : List Char :=
  if c = 'Σ' then
    if meetsLetter before && !meetsLetter after then ['ς'] else ['σ']
  else
    lowerAlone c

/-! ## Texts -/

/-- Lower-cases a text that stands behind the characters `before`, nearest first. -/
def lowerFrom (before : List Char) : List Char → List Char
  | [] => []
  | c :: after => lowerBetween before c after ++ lowerFrom (c :: before) after

/-- The characters of a text in lower case. -/
def lowerChars (text : List Char) : List Char := lowerFrom [] text

/-- A text in lower case. -/
def lowercase (text : String) : String := String.ofList (lowerChars text.toList)

/-- A text with its ASCII letters in lower case. -/
def lowercaseAscii (text : String) : String := String.ofList (text.toList.map lowerAscii)

end MailReconciler.Text
