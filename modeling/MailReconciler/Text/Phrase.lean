/-
Phrases inside texts: searching for one, and sets of phrases in increasing order.
-/

namespace MailReconciler.Text

/-- Whether `phrase` stands somewhere in the characters of a text. -/
def holdsPhrase (phrase : List Char) : List Char → Bool
  | [] => phrase.isEmpty
  | c :: rest => phrase.isPrefixOf (c :: rest) || holdsPhrase phrase rest

/-- Whether `phrase` stands somewhere in `text`. -/
def mentions (text phrase : String) : Bool := holdsPhrase phrase.toList text.toList

/-! ## Sets of phrases -/

/-- Adds a phrase to a strictly increasing list and keeps it so. -/
def insertPhrase (phrase : String) : List String → List String
  | [] => [phrase]
  | first :: rest =>
    if phrase < first then phrase :: first :: rest
    else if phrase = first then first :: rest
    else first :: insertPhrase phrase rest

/-- The strictly increasing list of some phrases. -/
def phraseSet (phrases : List String) : List String :=
  phrases.foldl (fun set phrase => insertPhrase phrase set) []

end MailReconciler.Text
