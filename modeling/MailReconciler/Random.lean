/-
A source of random words, and numbers drawn evenly between two bounds.
-/

namespace MailReconciler

/-- An endless row of random words, and how many of them are used. -/
structure RandomWords where
  word : Nat → UInt64
  used : Nat

namespace RandomWords

/-- The row that repeats the given words; all zero when there are none. -/
def cycle (words : List UInt64) : RandomWords :=
  ⟨fun n => words.getD (n % words.length) 0, 0⟩

/-- The next word. -/
def next (source : RandomWords) : UInt64 × RandomWords :=
  (source.word source.used, { source with used := source.used + 1 })

/-! ## Even draws -/

/-- The largest number below one that a draw starts from. -/
def topOfUnit : Float := Float.ofBits 0x3FFFFFFFFFFFFFFF - 1.0

/-- The number in `[0, 1)` that the upper fifty-two bits of a word spell. -/
def unitOf (word : UInt64) : Float := Float.ofBits ((0x3FF0000000000000 : UInt64) ||| (word >>> 12)) - 1.0

/-- The double next below a positive one. -/
def nextBelow (x : Float) : Float := Float.ofBits (x.toBits - 1)

/-- Lowers a scale until the largest draw does not exceed `high`. -/
def fitScale (low high : Float) : (tries : Nat) → Float → Float
  | 0, scale => scale
  | tries + 1, scale =>
    if scale * topOfUnit + low > high then fitScale low high tries (nextBelow scale) else scale

/-- The number between `low` and `high`, both included, that a word draws. -/
def draw (low high : Float) (word : UInt64) : Float :=
  unitOf word * fitScale low high 64 ((high - low) / topOfUnit) + low

end RandomWords
end MailReconciler
