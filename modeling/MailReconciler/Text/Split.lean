/-
Texts in parts, with a character between each two.
-/

namespace MailReconciler.Text

/-- The parts of a text; there is always one. -/
def splitAt (separator : Char) : List Char → List (List Char)
  | [] => [[]]
  | c :: rest =>
    match splitAt separator rest with
    | [] => [[c]]
    | part :: parts => if c = separator then [] :: part :: parts else (c :: part) :: parts

end MailReconciler.Text
