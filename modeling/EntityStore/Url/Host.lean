import EntityStore.Json.Basic
import EntityStore.Url.Domain

/-!
# Hosts

The host of a URL is a numeric address, a domain, or, outside the special schemes, an opaque name.
-/

namespace EntityStore.Url

/-- The host of a URL. -/
inductive Host where
  /-- A domain, or an opaque name. -/
  | name (text : List Char)
  /-- An address of version four. -/
  | address4
  /-- An address of version six. -/
  | address6
deriving DecidableEq

/-- Whether a character is a hexadecimal digit in either case. -/
def isHexDigit (c : Char) : Bool :=
  c.isDigit || ('a' ≤ c && c ≤ 'f') || ('A' ≤ c && c ≤ 'F')

/-- The value of a hexadecimal digit. -/
def hexDigitValue (c : Char) : Nat :=
  if c.isDigit then c.toNat - 48 else if 'a' ≤ c then c.toNat - 87 else c.toNat - 55

/-- The bytes of a text, every percent sign with two hexadecimal digits standing for one byte. -/
def percentDecode : List Char → List UInt8
  | [] => []
  | '%' :: a :: b :: rest =>
    if isHexDigit a && isHexDigit b then
      UInt8.ofNat (hexDigitValue a * 16 + hexDigitValue b) :: percentDecode rest
    else 0x25 :: percentDecode (a :: b :: rest)
  | c :: rest => Json.bytesOf (String.singleton c) ++ percentDecode rest

/-- The parts between dots. -/
def splitDots (cs : List Char) : List (List Char) :=
  cs.splitOn '.'

/-- What a part of an address may be. -/
inductive AddressPart where
  | malformed
  | tooLarge
  | number (n : Nat)

/-- The number that digits of a base are written for, below `2 ^ 32`. -/
def partOfDigits (base : Nat) (isDigitOfBase : Char → Bool) (digits : List Char) : AddressPart :=
  if digits.all isDigitOfBase then
    let n := digits.foldl (fun n c => n * base + hexDigitValue c) 0
    if n < UInt32.size then .number n else .tooLarge
  else .malformed

/-- Reads a part of an address: hexadecimal after `0x`, octal after `0`, else decimal. -/
def addressPart (part : List Char) : AddressPart :=
  match part with
  | [] => .malformed
  | '0' :: x :: rest =>
    if x = 'x' ∨ x = 'X' then
      if rest.isEmpty then .number 0 else partOfDigits 16 isHexDigit rest
    else partOfDigits 8 (fun c => '0' ≤ c && c ≤ '7') (x :: rest)
  | digits => partOfDigits 10 Char.isDigit digits

/-- The parts of an address; one empty part at the end does not count. -/
def addressParts (domain : List Char) : List (List Char) :=
  let parts := splitDots domain
  if 1 < parts.length ∧ parts.getLast? = some [] then parts.dropLast else parts

/-- Whether the last part of a domain is a number, so that the domain must be an address. -/
def endsInNumber (domain : List Char) : Bool :=
  match (addressParts domain).getLast? with
  | none => false
  | some [] => false
  | some last =>
    last.all Char.isDigit ||
      match addressPart last with
      | .malformed => false
      | _ => true

/-- Whether a domain is an address of version four: up to four numbers, of which all but the last
are bytes and the last fills the remaining bytes. -/
def isAddress4 (domain : List Char) : Bool :=
  let parts := addressParts domain
  let numbers := parts.filterMap fun part =>
    match addressPart part with
    | .number n => some n
    | _ => none
  numbers.length == parts.length && decide (parts.length ≤ 4) &&
    match numbers.getLast? with
    | none => false
    | some last =>
      decide (last < 1 <<< (8 * (5 - parts.length))) && numbers.dropLast.all (· < 256)

/-- Whether a text is four decimal bytes joined by dots, without leading zeros. -/
def isDottedQuad (cs : List Char) : Bool :=
  let parts := splitDots cs
  parts.length == 4 && parts.all fun part =>
    !part.isEmpty && decide (part.length ≤ 3) && part.all Char.isDigit &&
      (part.length == 1 || part.head? != some '0') && decide (Decimal.value part < 256)

/-- Reads the rest of an address of version six when `count` of its eight pieces are done and
`gap` says whether the run of zeros has occurred.  Every step takes at least one character. -/
def address6Rest : Nat → Bool → Nat → List Char → Bool
  | _, gap, count, [] => gap || count == 8
  | 0, _, _, _ => false
  | fuel + 1, gap, count, c :: rest =>
    if 8 ≤ count then false
    else if c = ':' then !gap && address6Rest fuel true (count + 1) rest
    else
      let digits := ((c :: rest).takeWhile isHexDigit).take 4
      match (c :: rest).drop digits.length with
      | [] => address6Rest fuel gap (count + 1) []
      | '.' :: _ =>
        !digits.isEmpty && decide (count ≤ 6) && isDottedQuad (c :: rest) &&
          (gap || count == 6)
      | ':' :: more => !more.isEmpty && address6Rest fuel gap (count + 1) more
      | _ => false

/-- Whether a text is an address of version six. -/
def isAddress6 (cs : List Char) : Bool :=
  match cs with
  | ':' :: ':' :: rest => address6Rest cs.length true 1 rest
  | ':' :: _ => false
  | _ => decide (2 ≤ cs.length) && address6Rest cs.length false 0 cs

/-- Reads the text of a host that stands in brackets. -/
def bracketed? (cs : List Char) : Option Host :=
  let inner := cs.drop 1
  if inner.getLast? = some ']' && isAddress6 inner.dropLast then some .address6 else none

/-- Reads the host of a URL with a special scheme. -/
def specialHost? (cs : List Char) : Option Host :=
  if cs.head? = some '[' then bracketed? cs
  else do
    let decoded ← String.fromUTF8? ⟨(percentDecode cs).toArray⟩
    let domain ← domain? decoded.toList
    if domain.isEmpty then none
    else if endsInNumber domain then
      if isAddress4 domain then some .address4 else none
    else some (.name domain)

/-- The characters that an opaque host may not hold. -/
def forbiddenInHost : List Char :=
  ['\x00', '\t', '\n', '\x0d', ' ', '#', '/', ':', '<', '>', '?', '@', '[', '\\', ']', '^', '|']

/-- Reads the host of a URL with any other scheme. -/
def opaqueHost? (cs : List Char) : Option Host :=
  if cs.head? = some '[' then bracketed? cs
  else if cs.any forbiddenInHost.contains then none
  else some (.name cs)

end EntityStore.Url
