/-
The grammar of JSON texts, and that the reader reads exactly what it derives. A category of the grammar relates a text
to what is left behind a phrase of that category at its front, which is how a reader goes through a text too. Bytes that
belong to no character may stand in strings, as may escapes for half of a surrogate pair: such a text is well formed,
although the value that it holds cannot be represented.
-/
import MailReconciler.Json.Reading

namespace MailReconciler.Json

open Text (Glyphs)
open Decimal (isDigit)

/-! ## The grammar -/

namespace Grammar

abbrev IsBlank (c : Char) : Prop := c = ' ' ∨ c = '\n' ∨ c = '\t' ∨ c = '\r'

inductive Blanks : Glyphs → Glyphs → Prop
  | done (t : Glyphs) : Blanks t t
  | more {c : Char} {t r : Glyphs} (hc : IsBlank c) (h : Blanks t r) : Blanks (some c :: t) r

/-- The digits of the number of a character, of either case. -/
def IsHexDigit (c : Char) : Prop := '0' ≤ c ∧ c ≤ '9' ∨ 'a' ≤ c ∧ c ≤ 'f' ∨ 'A' ≤ c ∧ c ≤ 'F'

/-- The rest of a string behind its opening quote. -/
inductive Characters : Glyphs → Glyphs → Prop
  | close (t : Glyphs) : Characters (some '"' :: t) t
  | fault {t r : Glyphs} (h : Characters t r) : Characters (none :: t) r
  | plain {c : Char} {t r : Glyphs} (hquote : c ≠ '"') (hslash : c ≠ '\\') (hcontrol : 0x20 ≤ c.toNat)
    (h : Characters t r) : Characters (some c :: t) r
  | letter {c : Char} {t r : Glyphs} (hc : c ∈ ['"', '\\', '/', 'b', 'f', 'n', 'r', 't']) (h : Characters t r) :
    Characters (some '\\' :: some c :: t) r
  | number {a b c d : Char} {t r : Glyphs} (ha : IsHexDigit a) (hb : IsHexDigit b) (hc : IsHexDigit c)
    (hd : IsHexDigit d) (h : Characters t r) :
    Characters (some '\\' :: some 'u' :: some a :: some b :: some c :: some d :: t) r

/-- One or more digits. -/
def Digits (t r : Glyphs) : Prop :=
  ∃ digits : List Char, digits ≠ [] ∧ (∀ c ∈ digits, isDigit c = true) ∧ t = digits.map some ++ r

/-- One or more digits, of which the first is a zero only if it is the only one. -/
def Whole (t r : Glyphs) : Prop :=
  ∃ digits : List Char, digits ≠ [] ∧ (∀ c ∈ digits, isDigit c = true) ∧
    (digits.head? = some '0' → digits.length = 1) ∧ t = digits.map some ++ r

/-- One of some signs, or none. -/
inductive Sign (signs : List Char) : Glyphs → Glyphs → Prop
  | absent (t : Glyphs) : Sign signs t t
  | present {c : Char} {t : Glyphs} (hc : c ∈ signs) : Sign signs (some c :: t) t

inductive Fraction : Glyphs → Glyphs → Prop
  | absent (t : Glyphs) : Fraction t t
  | present {t r : Glyphs} (h : Digits t r) : Fraction (some '.' :: t) r

inductive Exponent : Glyphs → Glyphs → Prop
  | absent (t : Glyphs) : Exponent t t
  | present {c : Char} {t t₁ r : Glyphs} (hc : c = 'e' ∨ c = 'E') (sign : Sign ['-', '+'] t t₁) (h : Digits t₁ r) :
    Exponent (some c :: t) r

inductive Numeral : Glyphs → Glyphs → Prop
  | parts {t t₁ t₂ t₃ r : Glyphs} (sign : Sign ['-'] t t₁) (whole : Whole t₁ t₂) (fraction : Fraction t₂ t₃)
    (exponent : Exponent t₃ r) : Numeral t r

/-- The categories that hold each other. -/
inductive Category where
  | value
  /-- The items of an array that has some, with its closing bracket. -/
  | items
  /-- The members of an object that has some, with its closing brace. -/
  | members

/-- What stands at the front of a text, and what is left behind it. -/
inductive Derives : Category → Glyphs → Glyphs → Prop
  | word {w : List Char} (hw : w ∈ [['t', 'r', 'u', 'e'], ['f', 'a', 'l', 's', 'e'], ['n', 'u', 'l', 'l']])
    (t : Glyphs) : Derives .value (w.map some ++ t) t
  | numeral {t r : Glyphs} (h : Numeral t r) : Derives .value t r
  | string {t r : Glyphs} (h : Characters t r) : Derives .value (some '"' :: t) r
  | emptyArray {t r : Glyphs} (h : Blanks t (some ']' :: r)) : Derives .value (some '[' :: t) r
  | array {t r : Glyphs} (h : Derives .items t r) : Derives .value (some '[' :: t) r
  | emptyObject {t r : Glyphs} (h : Blanks t (some '}' :: r)) : Derives .value (some '{' :: t) r
  | object {t r : Glyphs} (h : Derives .members t r) : Derives .value (some '{' :: t) r
  | lastItem {t t₁ t₂ r : Glyphs} (before : Blanks t t₁) (value : Derives .value t₁ t₂)
    (after : Blanks t₂ (some ']' :: r)) : Derives .items t r
  | item {t t₁ t₂ t₃ r : Glyphs} (before : Blanks t t₁) (value : Derives .value t₁ t₂)
    (after : Blanks t₂ (some ',' :: t₃)) (rest : Derives .items t₃ r) : Derives .items t r
  | lastMember {t t₁ t₂ t₃ t₄ t₅ r : Glyphs} (before : Blanks t (some '"' :: t₁)) (name : Characters t₁ t₂)
    (colon : Blanks t₂ (some ':' :: t₃)) (behind : Blanks t₃ t₄) (value : Derives .value t₄ t₅)
    (after : Blanks t₅ (some '}' :: r)) : Derives .members t r
  | member {t t₁ t₂ t₃ t₄ t₅ t₆ r : Glyphs} (before : Blanks t (some '"' :: t₁)) (name : Characters t₁ t₂)
    (colon : Blanks t₂ (some ':' :: t₃)) (behind : Blanks t₃ t₄) (value : Derives .value t₄ t₅)
    (after : Blanks t₅ (some ',' :: t₆)) (rest : Derives .members t₆ r) : Derives .members t r

/-- A text that is one value between blanks. -/
def IsText (text : Glyphs) : Prop := ∃ t r, Blanks text t ∧ Derives .value t r ∧ Blanks r []

end Grammar

open Grammar

/-! ## Tokens -/

variable {t r : Glyphs} {c : Char}

theorem blanks_skipBlanks (t : Glyphs) : Blanks t (skipBlanks t) := by
  fun_induction skipBlanks t with
  | case1 c rest hc ih => exact .more hc ih
  | case2 c rest hc => exact .done _
  | case3 t h => exact .done _

theorem Grammar.Blanks.skipBlanks_eq (h : Blanks t r) : skipBlanks t = skipBlanks r := by
  induction h with
  | done t => rfl
  | more hc _ ih => rw [skipBlanks, if_pos hc, ih]

theorem Grammar.Blanks.length_le (h : Blanks t r) : r.length ≤ t.length := by
  induction h with
  | done t => exact Nat.le_refl _
  | more _ _ ih => exact Nat.le_succ_of_le ih

theorem Grammar.Blanks.length_lt (h : Blanks t (some c :: r)) : r.length < t.length := h.length_le

theorem skipBlanks_of_not_blank (hc : ¬IsBlank c) (t : Glyphs) :
    skipBlanks (some c :: t) = some c :: t := by
  rw [skipBlanks, if_neg hc]

/-- Fuel that suffices for a phrase with something in it is never used up. -/
theorem forall_fuel_of_succ {α : Type} {t r : List α} {P : Nat → Prop} (hlt : r.length < t.length)
    (h : ∀ fuel, t.length ≤ fuel + 1 + r.length → P (fuel + 1)) : ∀ fuel, t.length ≤ fuel + r.length → P fuel
  | 0, hfuel => by omega
  | fuel + 1, hfuel => h fuel hfuel

theorem expect?_eq_some_iff {word : List Char} : expect? word t = some r ↔ t = word.map some ++ r := by
  fun_induction expect? word t with
  | case1 t => simp
  | case2 c word t ih => simp [ih]
  | case3 c word d t hne => simp [Ne.symm hne]
  | case4 t c word h =>
    -- no glyph of a character stands at the front
    constructor
    · intro hnone
      cases hnone
    · rintro rfl
      exact absurd rfl (h c (word.map some ++ r))

theorem hexDigit?_isSome_iff : (hexDigit? c).isSome = true ↔ IsHexDigit c := by
  unfold hexDigit? IsHexDigit
  split
  · simp [*]
  · split
    · simp [*]
    · split <;> simp [*]

theorem escaped?_isSome_iff : (escaped? c).isSome = true ↔ c ∈ ['"', '\\', '/', 'b', 'f', 'n', 'r', 't'] := by
  unfold escaped?
  split <;> simp_all

end MailReconciler.Json
