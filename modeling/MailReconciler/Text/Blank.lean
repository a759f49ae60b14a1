/-
Blank characters, and texts without the blanks around them.
-/

namespace MailReconciler.Text

/-- The white-space characters: the ASCII controls from tab to carriage return, the space, and the separators and
format characters beyond ASCII that the standard counts as white space. -/
def isBlank (c : Char) : Bool :=
  let code := c.toNat
  (0x09 ≤ code && code ≤ 0x0D) || code = 0x20 || code = 0x85 || code = 0xA0 || code = 0x1680 ||
    (0x2000 ≤ code && code ≤ 0x200A) || code = 0x2028 || code = 0x2029 || code = 0x202F ||
    code = 0x205F || code = 0x3000

/-- Characters without the ones at either end that satisfy `drop`. -/
def stripChars (drop : Char → Bool) (text : List Char) : List Char :=
  ((text.dropWhile drop).reverse.dropWhile drop).reverse

/-- A text without the blanks around it. -/
def trim (text : String) : String := String.ofList (stripChars isBlank text.toList)

/-- Whether a text has nothing but blanks. -/
def isBlankText (text : String) : Bool := text.toList.all isBlank

end MailReconciler.Text
