/-
Absolute URLs: scheme, host, port, path and query, and why a text is none. Schemes of the web need a host, and treat
backslashes as slashes. How international host names are written is a parameter of the reader.
-/
import MailReconciler.Address.Internet
import MailReconciler.Text.Blank
import MailReconciler.Url.Domain

namespace MailReconciler

/-- Why a text is no URL. -/
inductive UrlError where
  | relative
  | emptyHost
  | badPort
  | badIpv4
  | badIpv6
  | badName
  | badCharacter
deriving Repr, DecidableEq

/-- The text of a URL error. -/
def UrlError.message : UrlError → String
  | .relative => "relative URL without a base"
  | .emptyHost => "empty host"
  | .badPort => "invalid port number"
  | .badIpv4 => "invalid IPv4 address"
  | .badIpv6 => "invalid IPv6 address"
  | .badName => "invalid international domain name"
  | .badCharacter => "invalid domain character"

/-- The host of a URL. -/
inductive Host where
  | none
  | name (text : String)
  | ipv4 (address : Ipv4)
  | ipv6 (address : Ipv6)
deriving DecidableEq

/-- An absolute URL without its credentials and its fragment. -/
structure Url where
  scheme : String
  host : Host
  /-- Absent when it is the one that the scheme implies. -/
  port : Option Nat
  path : String
  query : Option String
deriving DecidableEq

namespace Url

/-! ## Schemes -/

/-- What the scheme of a URL means for the rest of it. -/
inductive SchemeKind where
  | web (defaultPort : Nat)
  | file
  | other
deriving Repr, DecidableEq

/-- The kind of a scheme. -/
def SchemeKind.of (scheme : String) : SchemeKind :=
  match scheme with
  | "http" | "ws" => .web 80
  | "https" | "wss" => .web 443
  | "ftp" => .web 21
  | "file" => .file
  | _ => .other

/-- Whether backslashes are slashes. -/
def SchemeKind.isSpecial : SchemeKind → Bool
  | .other => false
  | _ => true

/-- The text of a URL without controls and spaces around it, and without tabs and line breaks. -/
def clean (text : String) : List Char :=
  (Text.stripChars (·.toNat ≤ 0x20) text.toList).filter fun c => c ≠ '\t' ∧ c ≠ '\n' ∧ c ≠ '\r'

/-- Whether a character may stand in a scheme. -/
def isSchemeChar (c : Char) : Bool := Text.isAlphanumeric c || c = '+' || c = '-' || c = '.'

/-- The scheme at the front of a text, which begins with a letter, and what follows its colon. -/
def takeScheme? (text : List Char) : Option (String × List Char) :=
  let word := text.takeWhile isSchemeChar
  match text.drop word.length with
  | ':' :: rest =>
    if word.head?.any (·.isAlpha) then some (String.ofList (word.map Text.lowerAscii), rest) else none
  | _ => none

/-! ## Hosts -/

/-- A part of an address of four bytes: decimal, octal behind a zero, or hexadecimal behind `0x`. The outer `none` is
no number, the inner one a number beyond thirty-two bits. -/
def ipv4Part? (part : List Char) : Option (Option Nat) :=
  let number (base : Nat) (digits : List Char) : Option (Option Nat) :=
    match digits with
    | [] => some (some 0)
    | digits =>
      match takeNumber? base digits with
      | some (_, n, []) => some (if n < UInt32.size then some n else none)
      | _ => none
  match part with
  | [] => none
  | '0' :: 'x' :: digits | '0' :: 'X' :: digits => number 16 digits
  | '0' :: d :: digits => number 8 (d :: digits)
  | digits => number 10 digits

/-- Whether the last label of a name, one empty label apart, is a number. -/
def endsInNumber (labels : List (List Char)) : Bool :=
  let isNumber (label : List Char) : Bool :=
    (!label.isEmpty && label.all Decimal.isDigit) || (ipv4Part? label).isSome
  match labels.reverse with
  | [] :: label :: _ => isNumber label
  | label :: _ => isNumber label
  | [] => false

/-- The address that the labels of a name spell: up to four numbers, the last of which fills the rest. -/
def ipv4? (labels : List (List Char)) : Option Ipv4 := do
  let labels := if labels.getLast? = some [] then labels.dropLast else labels
  if 4 < labels.length then none
  else
    let numbers ← labels.mapM fun label => (ipv4Part? label).bind id
    let front := numbers.dropLast
    let last ← numbers.getLast?
    if front.any (255 < ·) ∨ 1 <<< (8 * (4 - front.length)) ≤ last then none
    else
      let weighed := (front.zip [1 <<< 24, 1 <<< 16, 1 <<< 8]).map fun (n, weight) => n * weight
      return .ofNat (weighed.foldl (· + ·) last)

/-- The host in square brackets, which is an address of eight groups. -/
def bracketed (text : List Char) : Except UrlError Host :=
  match text.getLast? with
  | some ']' =>
    match Ipv6.parse? text.dropLast with
    | some a => .ok (.ipv6 a)
    | none => .error .badIpv6
  | _ => .error .badIpv6

/-- The host of a web or file URL. -/
def specialHost (names : HostNames) (text : List Char) : Except UrlError Host :=
  match text with
  | '[' :: rest => bracketed rest
  | text =>
    match hostName? names (String.ofList text) with
    | none => .error .badName
    | some "" => .error .emptyHost
    | some name =>
      let labels := Text.splitAt '.' name.toList
      if endsInNumber labels then
        match ipv4? labels with
        | some a => .ok (.ipv4 a)
        | none => .error .badIpv4
      else .ok (.name name)

/-- The characters that no host of another URL may hold. -/
def isForbiddenOpaque (c : Char) : Bool :=
  c.toNat = 0 || ['\t', '\n', '\r', ' ', '#', '/', ':', '<', '>', '?', '@', '[', '\\', ']', '^', '|'].contains c

/-- Whether a control character or beyond ASCII. -/
def isControlOrWide (c : Char) : Bool := c.toNat < 0x20 || 0x7F ≤ c.toNat

/-- The host of any other URL, which is taken as it is. -/
def opaqueHost (text : List Char) : Except UrlError Host :=
  match text with
  | [] => .ok .none
  | '[' :: rest => bracketed rest
  | text =>
    if text.any isForbiddenOpaque then .error .badCharacter
    else .ok (.name (Text.percentEncode (fun c => !isControlOrWide c) (String.ofList text)))

/-! ## Authorities -/

/-- Whether a character ends the authority of a URL. -/
def endsAuthority (special : Bool) (c : Char) : Bool := c = '/' || c = '?' || c = '#' || (special && c = '\\')

/-- Splits the host from what follows it: the first colon outside square brackets ends it. -/
def splitHost (inside : Bool) : List Char → List Char × List Char
  | [] => ([], [])
  | c :: rest =>
    if c = ':' && !inside then ([], c :: rest)
    else
      let (host, behind) := splitHost (if c = '[' then true else if c = ']' then false else inside) rest
      (c :: host, behind)

/-- The port behind a host; absent when it is empty or the default. -/
def port? (default : Option Nat) : List Char → Except UrlError (Option Nat)
  | ':' :: digits =>
    let n := Decimal.ofDigits digits
    if !digits.all Decimal.isDigit || 65535 < n then .error .badPort
    else .ok (if digits.isEmpty || default == some n then none else some n)
  | _ => .ok none

/-- Splits the credentials, which end at the last `@`, from an authority. -/
def splitCredentials (authority : List Char) : Option (List Char) × List Char :=
  if authority.contains '@' then
    let rest := (authority.reverse.takeWhile (· ≠ '@')).reverse
    (some (authority.take (authority.length - rest.length - 1)), rest)
  else (none, authority)

/-- Whether credentials need a host behind them: empty ones only when more follows, and a lone colon never. -/
def needHost (more : Bool) : Option (List Char) → Bool
  | none | some [':'] => false
  | some [] => more
  | some _ => true

/-- The host and port of an authority; `more` tells whether anything follows it. -/
def readAuthority (names : HostNames) (kind : SchemeKind) (authority : List Char) (more : Bool) :
    Except UrlError (Host × Option Nat) := do
  let (credentials, rest) := splitCredentials authority
  let (hostText, behind) := splitHost false rest
  match kind with
  | .web defaultPort =>
    if hostText.isEmpty then .error .emptyHost
    else
      let host ← specialHost names hostText
      return (host, ← port? (some defaultPort) behind)
  | _ =>
    let host ← opaqueHost hostText
    if host = .none && !behind.isEmpty then .error .emptyHost
    else
      let port ← port? none behind
      if host = .none && needHost more credentials then .error .emptyHost else return (host, port)

/-! ## Paths and queries -/

/-- Whether a segment stands for the present level. -/
def isSingleDot (segment : List Char) : Bool :=
  [".", "%2e"].contains (String.ofList (segment.map Text.lowerAscii))

/-- Whether a segment stands for the level above. -/
def isDoubleDot (segment : List Char) : Bool :=
  ["..", ".%2e", "%2e.", "%2e%2e"].contains (String.ofList (segment.map Text.lowerAscii))

/-- The characters of a path that stand for themselves. -/
def isPathChar (c : Char) : Bool :=
  !isControlOrWide c && !([' ', '"', '#', '<', '>', '?', '^', '`', '{', '}'].contains c)

/-- The characters of a query that stand for themselves. -/
def isQueryChar (special : Bool) (c : Char) : Bool :=
  !isControlOrWide c && !([' ', '"', '#', '<', '>'].contains c) && !(special && c = '\'')

/-- Resolves the levels of a path: `walked` holds the segments so far, the last first. -/
def resolve (walked : List String) : List (List Char) → List String
  | [] => walked.reverse
  | segment :: rest =>
    let walked :=
      if isDoubleDot segment then (if rest.isEmpty then "" :: walked.tail else walked.tail)
      else if isSingleDot segment then (if rest.isEmpty then "" :: walked else walked)
      else Text.percentEncode isPathChar (String.ofList segment) :: walked
    resolve walked rest

/-- The path that some characters behind an authority spell. -/
def readPath (special : Bool) (text : List Char) : String :=
  let text := if special then text.map fun c => if c = '\\' then '/' else c else text
  match text with
  | [] => if special then "/" else ""
  | '/' :: rest => "/" ++ "/".intercalate (resolve [] (Text.splitAt '/' rest))
  | rest => "/" ++ "/".intercalate (resolve [] (Text.splitAt '/' rest))

/-- Splits a text at the first of some characters, which stays with the second part. -/
def splitBefore (stops : Char → Bool) (text : List Char) : List Char × List Char :=
  let first := text.takeWhile fun c => !stops c
  (first, text.drop first.length)

/-- The query behind a path, up to the fragment. -/
def readQuery (special : Bool) : List Char → Option String
  | '?' :: rest => some (Text.percentEncode (isQueryChar special) (String.ofList (rest.takeWhile (· ≠ '#'))))
  | _ => none

/-- The URL with a host and port that goes on with some characters. -/
def ofRest (scheme : String) (special : Bool) (host : Host) (port : Option Nat) (rest : List Char) : Url :=
  let (path, behind) := splitBefore (fun c => c = '?' ∨ c = '#') rest
  ⟨scheme, host, port, readPath special path, readQuery special behind⟩

/-! ## Reading -/

/-- Drops two slashes from the front of a text. -/
def dropSlashes? (isSlash : Char → Bool) : List Char → Option (List Char)
  | a :: b :: rest => if isSlash a && isSlash b then some rest else none
  | _ => none

/-- Whether a text is a letter and a colon or bar, as volumes are named. -/
def isVolume : List Char → Bool
  | [letter, c] => letter.isAlpha && (c = ':' || c = '|')
  | _ => false

/-- A file URL behind its scheme. -/
def readFile (names : HostNames) (text : List Char) : Except UrlError Url := do
  match dropSlashes? (fun c => c = '/' ∨ c = '\\') text with
  | none => return ofRest "file" true .none none text
  | some rest =>
    let (hostText, behind) := splitBefore (endsAuthority true) rest
    if hostText.isEmpty then return ofRest "file" true .none none behind
    else if isVolume hostText then return ofRest "file" true .none none rest
    else return ofRest "file" true (← specialHost names hostText) none behind

/-- A URL with an authority, behind its slashes. -/
def readHierarchy (names : HostNames) (scheme : String) (kind : SchemeKind) (text : List Char) :
    Except UrlError Url := do
  let (authority, rest) := splitBefore (endsAuthority kind.isSpecial) text
  let (host, port) ← readAuthority names kind authority !rest.isEmpty
  return ofRest scheme kind.isSpecial host port rest

/-- The URL of another scheme without an authority. -/
def readOther (scheme : String) (text : List Char) : Url :=
  match text with
  | '/' :: _ => ofRest scheme false .none none text
  | text =>
    let (path, behind) := splitBefore (fun c => c = '?' ∨ c = '#') text
    let path := Text.percentEncode (fun c => !isControlOrWide c) (String.ofList path)
    ⟨scheme, .none, none, path, readQuery false behind⟩

/-- The URL that a text spells. -/
def parse (names : HostNames) (text : String) : Except UrlError Url :=
  match takeScheme? (clean text) with
  | none => .error .relative
  | some (scheme, rest) =>
    match SchemeKind.of scheme with
    | .web port => readHierarchy names scheme (.web port) (rest.dropWhile fun c => c = '/' ∨ c = '\\')
    | .file => readFile names rest
    | .other =>
      match dropSlashes? (· = '/') rest with
      | some rest => readHierarchy names scheme .other rest
      | none => .ok (readOther scheme rest)

/-! ## Requests -/

/-- A URL with further pairs in its query. -/
def addQuery (url : Url) (pairs : List (String × String)) : Url :=
  if pairs.isEmpty then url
  else
    let before := match url.query with
      | some q => if q.isEmpty then "" else q ++ "&"
      | none => ""
    { url with query := some (before ++ Text.formBody pairs) }

/-- What a request line names: the path and the query. -/
def target (url : Url) : String := url.path ++ url.query.elim "" ("?" ++ ·)

end Url
end MailReconciler
