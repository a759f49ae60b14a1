/-
International host names, as far as the program carries tables of its own: letters are folded one by one, and encoded
labels must stand for folded letters. That is more than what the full tables allow: they also look at how letters stand
together. Nothing else depends on these tables.
-/
import MailReconciler.Text.Blank
import MailReconciler.Url.Domain

namespace MailReconciler

namespace Url

/-! ## Encoded labels -/

namespace Label

/-- The value of a digit of an encoded label: letters first, then decimal digits. -/
def digit? (c : Char) : Option Nat :=
  if 'a' ≤ c ∧ c ≤ 'z' then some (c.toNat - 'a'.toNat)
  else if '0' ≤ c ∧ c ≤ '9' then some (c.toNat - '0'.toNat + 26)
  else none

/-- The digit from which on the number goes on, at a position that starts at 36 and grows by 36. -/
def threshold (position bias : Nat) : Nat := min 26 (max 1 (position - bias))

/-- A number in digits of growing weight, added to `sum`, and what follows. -/
def number? (bias : Nat) : List Char → (position weight sum : Nat) → Option (Nat × List Char)
  | [], _, _, _ => none
  | c :: rest, position, weight, sum =>
    match digit? c with
    | none => none
    | some d =>
      let t := threshold position bias
      if d < t then some (sum + d * weight, rest)
      else number? bias rest (position + 36) (weight * (36 - t)) (sum + d * weight)

theorem length_lt_of_number? {bias : Nat} {text : List Char} {position weight sum : Nat}
    {r : Nat × List Char} (h : number? bias text position weight sum = some r) : r.2.length < text.length := by
  induction text generalizing position weight sum with
  | nil => simp [number?] at h
  | cons c rest ih =>
    simp only [number?] at h
    split at h
    · cases h
    · split at h
      · cases h; simp
      · have := ih h; simp only [List.length_cons]; omega

/-- Divides a difference by 35 until it is at most 455, and counts 36 for every time. -/
def shrink (delta : Nat) : Nat × Nat :=
  if 455 < delta then
    let (d, k) := shrink (delta / 35)
    (d, k + 36)
  else (delta, 0)
termination_by delta
decreasing_by omega

/-- The bias behind a difference, when `points` characters are known. -/
def adapt (delta points : Nat) (first : Bool) : Nat :=
  let delta := if first then delta / 700 else delta / 2
  let (d, k) := shrink (delta + delta / points)
  k + 36 * d / (d + 38)

/-- Inserts the characters that the digits tell into the known ones. -/
def insertAll? (bias code index : Nat) (known : List Char) (text : List Char) : Option (List Char) :=
  match text with
  | [] => some known
  | c :: rest =>
    match _h : number? bias (c :: rest) 36 1 index with
    | none => none
    | some (next, rest) =>
      let points := known.length + 1
      let code := code + next / points
      if 0x110000 ≤ code ∨ (0xD800 ≤ code ∧ code ≤ 0xDFFF) then none
      else
        let position := next % points
        insertAll? (adapt (next - index) points (index = 0)) code (position + 1)
          (known.take position ++ Char.ofNat code :: known.drop position) rest
termination_by text.length
decreasing_by exact length_lt_of_number? _h

/-- The characters that an encoded label stands for: those before its last hyphen are known, and plain. -/
def decode? (label : List Char) : Option (List Char) :=
  let digits := (label.reverse.takeWhile (· ≠ '-')).reverse
  let known := label.take (label.length - digits.length - 1)
  if known.all (·.toNat < 0x80) then insertAll? 72 128 0 known digits else none

end Label

/-! ## Names -/

/-- Characters beyond ASCII that leave no trace in a host name. -/
def isIgnored (c : Char) : Bool :=
  let code := c.toNat
  code = 0xAD || code = 0x34F || (0x180B ≤ code && code ≤ 0x180D) || code = 0x180F || code = 0x200B ||
    code = 0x2060 || code = 0x2064 || (0xFE00 ≤ code && code ≤ 0xFE0F) || code = 0xFEFF

/-- Characters beyond ASCII that no host name may hold: controls, blanks, directions, private and unassigned ones. -/
def isRefused (c : Char) : Bool :=
  let code := c.toNat
  (0x80 ≤ code && code ≤ 0x9F) || Text.isBlank c || (0x200C ≤ code && code ≤ 0x200F) ||
    (0x202A ≤ code && code ≤ 0x202E) || (0x2061 ≤ code && code ≤ 0x206F) || (0xE000 ≤ code && code ≤ 0xF8FF) ||
    (0xFDD0 ≤ code && code ≤ 0xFDEF) || (0xFFF0 ≤ code && code ≤ 0xFFFF) || code % 0x10000 ≥ 0xFFFE ||
    0xE0000 ≤ code

/-- A character of a host name in its folded form; none if it is refused. -/
def foldChar? (c : Char) : Option (List Char) :=
  let code := c.toNat
  if code < 0x80 then some [Text.lowerAscii c]
  else if isIgnored c then some []
  else if code = 0x3002 || code = 0xFF0E || code = 0xFF61 then some ['.']
  else if 0xFF01 ≤ code && code ≤ 0xFF5E then some [Text.lowerAscii (Char.ofNat (code - 0xFEE0))]
  else if isRefused c then none
  else some (Text.lowercase (String.singleton c)).toList

/-- Whether a label may stand in a host name; an encoded one must stand for characters that need it. -/
def isLabel (label : List Char) : Bool :=
  match label with
  | 'x' :: 'n' :: '-' :: '-' :: encoded =>
    match Label.decode? encoded with
    | none => false
    | some characters =>
      characters.any (fun c => 0x80 ≤ c.toNat) && characters.all fun c => foldChar? c == some [c]
  | _ => true

end Url

/-- International names in their folded form. -/
def HostNames.folded : HostNames := fun name => do
  let folded := (← name.toList.mapM Url.foldChar?).flatten
  if folded.any Url.isForbidden || !(Text.splitAt '.' folded).all Url.isLabel then none
  else some (String.ofList folded)

end MailReconciler
