import EntityStore.Url.Host

/-!
# Absolute URLs

Reading a URL as browsers do, with no base to resolve against.  Only what decides whether a text is
a URL and whether it names a host is kept: the scheme and the host.

White space and control characters at the ends do not count, nor do tabs and line ends anywhere.
-/

namespace EntityStore

/-- An absolute URL: its scheme in lower case, and its host if it names one. -/
structure Url where
  scheme : List Char
  host : Option Url.Host
deriving DecidableEq

namespace Url

/-- How the rest of a URL is read, which its scheme decides. -/
inductive SchemeClass where
  | special
  | file
  | other
deriving DecidableEq

/-- The class of a scheme. -/
def classOf (scheme : List Char) : SchemeClass :=
  let name := String.ofList scheme
  if name = "file" then .file
  else if ["http", "https", "ws", "wss", "ftp"].contains name then .special
  else .other

/-- Drops control characters and spaces at both ends, and tabs and line ends everywhere. -/
def strip (cs : List Char) : List Char :=
  let isControl := fun (c : Char) => decide (c ≤ ' ')
  let inner := ((cs.dropWhile isControl).reverse.dropWhile isControl).reverse
  inner.filter fun c => c != '\t' && c != '\n' && c != '\x0d'

/-- Whether a scheme may hold a character. -/
def isSchemeChar (c : Char) : Bool :=
  c.isAlphanum || c == '+' || c == '-' || c == '.'

/-- Splits the scheme off: a letter, then letters, digits and three marks, then a colon. -/
def splitScheme? (cs : List Char) : Option (List Char × List Char) :=
  match cs with
  | first :: _ =>
    if first.isAlpha then
      match cs.dropWhile isSchemeChar with
      | ':' :: rest => some ((cs.takeWhile isSchemeChar).map Char.toLower, rest)
      | _ => none
    else none
  | [] => none

/-- Whether a character ends the authority part. -/
def endsAuthority (isSpecial : Bool) (c : Char) : Bool :=
  c == '/' || c == '?' || c == '#' || (isSpecial && c == '\\')

/-- Splits at the last at-sign. -/
def splitLastAt (cs : List Char) : Option (List Char × List Char) :=
  let after := (cs.reverse.takeWhile (· != '@')).reverse
  if after.length < cs.length then some (cs.take (cs.length - after.length - 1), after) else none

/-- The length of the host text, which ends at the first colon outside brackets. -/
def hostLength (inBrackets : Bool) : List Char → Nat
  | [] => 0
  | c :: rest =>
    if c = ':' && !inBrackets then 0
    else
      let inBrackets := if c = '[' then true else if c = ']' then false else inBrackets
      hostLength inBrackets rest + 1

/-- Whether a text is nothing, or a colon and the digits of a port. -/
def isPortText : List Char → Bool
  | [] => true
  | ':' :: digits => digits.all Char.isDigit && decide (Decimal.value digits ≤ 65535)
  | _ => false

/-- The part of a host text up to a backslash, which ends a port in every scheme. -/
def portText (cs : List Char) : List Char :=
  cs.takeWhile (· != '\\')

/-- Reads the authority part: credentials up to the last at-sign, a host, and a port. -/
def authority? (isSpecial : Bool) (cs : List Char) : Option (Option Host) :=
  let text := cs.takeWhile (!endsAuthority isSpecial ·)
  let (credentials, rest) := (splitLastAt text).getD ([], text)
  let hasAt := text.contains '@'
  let length := hostLength false rest
  let hostText := rest.take length
  let port := rest.drop length
  if hasAt && credentials.isEmpty && rest.isEmpty && text.length < cs.length then none
  else if isSpecial && hostText.isEmpty then none
  else do
    let host ← if isSpecial then specialHost? hostText else opaqueHost? hostText
    if host = .name [] then
      -- credentials that are more than a lone colon, or a port, need a host
      if !port.isEmpty || (hasAt && !credentials.isEmpty && credentials != [':']) then none
      else some none
    else if isPortText (portText port) then some (some host)
    else none

/-- A letter followed by a colon or a bar. -/
def isDriveLetter (cs : List Char) : Bool :=
  match cs with
  | [c, d] => c.isAlpha && (d == ':' || d == '|')
  | _ => false

/-- Whether a character separates the parts of a path in the special schemes. -/
def isSlash (c : Char) : Bool :=
  c == '/' || c == '\\'

/-- The number of dots that a segment of a path consists of, some of them percent-encoded. -/
def dotCount? : List Char → Option Nat
  | [] => some 0
  | '.' :: rest => (dotCount? rest).map (· + 1)
  | '%' :: '2' :: e :: rest => if e = 'e' ∨ e = 'E' then (dotCount? rest).map (· + 1) else none
  | _ => none

/-- Whether a drive letter becomes the first segment of a path of which some segments have been read
and `kept` of them remain.  One dot stands for nothing, and two dots take a segment back. -/
def drivesAfter (kept : Nat) : List (List Char) → Bool
  | [] => false
  | segment :: rest =>
    match dotCount? segment with
    | some 1 => drivesAfter kept rest
    | some 2 => drivesAfter (kept - 1) rest
    | _ => (kept == 0 && isDriveLetter segment) || drivesAfter (kept + 1) rest

/-- Whether the path starts with a drive letter, which displaces the host. -/
def startsWithDrive (path : List Char) : Bool :=
  let text := path.takeWhile fun c => c != '?' && c != '#'
  let inner := match text with
    | c :: rest => if isSlash c then rest else text
    | [] => []
  drivesAfter 0 (inner.splitOnP isSlash)

/-- Reads what follows the scheme of a file URL; the local host is no host. -/
def fileHost? (cs : List Char) : Option (Option Host) :=
  match cs with
  | a :: b :: rest =>
    if isSlash a && isSlash b then
      let text := rest.takeWhile (!endsAuthority true ·)
      if text.isEmpty || isDriveLetter text then some none
      else do
        let host ← specialHost? text
        if host = .name "localhost".toList || startsWithDrive (rest.drop text.length) then some none
        else some (some host)
    else some none
  | _ => some none

/-- Reads an absolute URL. -/
def parse? (s : String) : Option Url := do
  let (scheme, rest) ← splitScheme? (strip s.toList)
  match classOf scheme with
  | .special => (authority? true (rest.dropWhile isSlash)).map fun host => ⟨scheme, host⟩
  | .file => (fileHost? rest).map fun host => ⟨scheme, host⟩
  | .other =>
    match rest with
    | '/' :: '/' :: more => (authority? false more).map fun host => ⟨scheme, host⟩
    | _ => some ⟨scheme, none⟩

/-- Whether a text is an absolute URL that names a host. -/
def isFull (s : String) : Bool :=
  match parse? s with
  | some url => !url.scheme.isEmpty && url.host.isSome
  | none => false

end Url

end EntityStore
