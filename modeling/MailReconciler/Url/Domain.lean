/-
Host names of URLs. Plain names, of ASCII characters and without encoded labels, are put into lower case here; how any
other name is written with ASCII characters alone is left to tables of international names, which are a parameter.
-/
import MailReconciler.Text.Lowercase
import MailReconciler.Text.Percent
import MailReconciler.Text.Split

namespace MailReconciler

/-- How names of hosts that are not plain are written with ASCII characters alone; none for what is no name. -/
abbrev HostNames := String → Option String

/-- Tables without a single name: only plain names are names. -/
def HostNames.plain : HostNames := fun _ => none

namespace Url

/-- The characters that no host name may hold. -/
def isForbidden (c : Char) : Bool :=
  c.toNat ≤ 0x20 || c.toNat = 0x7F ||
    ['%', '#', '/', ':', '<', '>', '?', '@', '[', '\\', ']', '^', '|'].contains c

/-- Whether a name in lower case is plain: of ASCII characters, and none of its labels is encoded. -/
def isPlainName (name : List Char) : Bool :=
  name.all (·.toNat < 0x80) && (Text.splitAt '.' name).all fun label => !"xn--".toList.isPrefixOf label

/-- The host name that some percent-encoded characters spell. -/
def hostName? (names : HostNames) (text : String) : Option String := do
  let name ← Text.decodeStrict? (Text.percentDecode (Text.encode text))
  let lower := name.toList.map Text.lowerAscii
  if !isPlainName lower then names name
  else if lower.any isForbidden then none
  else some (String.ofList lower)

end Url
end MailReconciler
