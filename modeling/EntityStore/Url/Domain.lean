import EntityStore.Text.Composition
import EntityStore.Url.MappingTables
import EntityStore.Url.Punycode
import EntityStore.Url.ScriptTables

/-!
# Domains

A domain is read character by character: letters are lowered, characters that stand for others are
replaced, some do not count, and some are refused.  What remains is composed, and then every label
between dots is checked: a label after the mark of an encoded one must decode to a composed text, no
label may start with a combining mark, joiners need something to join, and in a domain with
right-to-left letters every label must have one direction.

What a character outside ASCII stands for is only followed up when it is ASCII; no other
replacement decides anything.
-/

namespace EntityStore.Url

open EntityStore.Text (inRanges inRuns)

/-- The ASCII characters that a domain may not hold. -/
def forbiddenInDomain (c : Char) : Bool :=
  c.toNat ≤ 0x20 || c.toNat == 0x7f ||
    ['%', '#', '/', ':', '<', '>', '?', '@', '[', '\\', ']', '^', '|'].contains c

/-- Whether a character is in the ASCII range. -/
def isAscii (c : Char) : Bool :=
  decide (c.toNat < 0x80)

/-- The ASCII text that a character outside ASCII stands for. -/
def asciiForm? (c : Char) : Option (List Char) :=
  let n := c.toNat
  let run := asciiRuns.find? fun (first, last, _) => decide (first ≤ n) && decide (n ≤ last)
  match run with
  | some (first, _, target) => some [Char.ofNat (target + (n - first))]
  | none =>
    (asciiTexts.findSome? fun (first, texts) =>
      if first ≤ n then texts[n - first]? else none).map String.toList

/-- What a character stands for in a domain, if a domain may hold it.  Of the ASCII characters only
those are refused that are left when the domain is composed. -/
def standsFor? (c : Char) : Option (List Char) :=
  if isAscii c then some [c.toLower]
  else if inRanges refusedRanges c.toNat then none
  else if inRanges ignoredRanges c.toNat then some []
  else some ((asciiForm? c).getD [c])

/-- Whether a character stands for itself, as all characters of an encoded label must. -/
def standsForItself (c : Char) : Bool :=
  standsFor? c == some [c] && !inRuns foldedRuns c.toNat

/-- How a character takes part in the direction of a text. -/
inductive Direction where
  | leftToRight
  | rightToLeft
  | number
  | arabicNumber
  | nonspacing
  | neutral
deriving DecidableEq

/-- Whether a character is a nonspacing mark. -/
def isNonspacing (c : Char) : Bool :=
  inRanges nonspacingRanges c.toNat

/-- The direction of a character. -/
def directionOf (c : Char) : Direction :=
  if isAscii c then
    if c.isAlpha then .leftToRight else if c.isDigit then .number else .neutral
  else if inRanges rightToLeftRanges c.toNat then .rightToLeft
  else if inRanges arabicNumberRanges c.toNat then .arabicNumber
  else if inRanges numberRanges c.toNat then .number
  else if isNonspacing c then .nonspacing
  else if inRanges neutralRanges c.toNat then .neutral
  else .leftToRight

/-- Whether a label has one direction.  It starts with a letter of that direction and ends with
one, or with a number, apart from marks; a right-to-left label may not mix two sorts of numbers. -/
def hasOneDirection (label : List Char) : Bool :=
  let directions := label.map directionOf
  let last := (directions.reverse.dropWhile (· == .nonspacing)).head?
  match directions.head? with
  | none => true
  | some .leftToRight =>
    directions.all (fun d => d != .rightToLeft && d != .arabicNumber) &&
      (last == some .leftToRight || last == some .number)
  | some .rightToLeft =>
    directions.all (· != .leftToRight) &&
      (last == some .rightToLeft || last == some .number || last == some .arabicNumber) &&
      !(directions.contains .number && directions.contains .arabicNumber)
  | some _ => false

/-- Whether a label contains what is written from right to left. -/
def isRightToLeft (label : List Char) : Bool :=
  label.any fun c => directionOf c == .rightToLeft || directionOf c == .arabicNumber

/-- Whether one of the characters nearest on either side, apart from marks, has a property. -/
def meets (ranges : List (Nat × Nat)) (side : List Char) : Bool :=
  (side.dropWhile isNonspacing).head?.any fun c => inRanges ranges c.toNat

/-- Whether every joiner has something to join; `before` holds the characters already passed, last
first.  Both joiners may follow a virama, and the one that separates may also stand between two
letters that would join. -/
def joinersFit (before : List Char) : List Char → Bool
  | [] => true
  | c :: rest =>
    let followsVirama := before.head?.any fun b => inRanges viramaRanges b.toNat
    let fits :=
      if c = '\u200d' then followsVirama
      else if c = '\u200c' then
        followsVirama || (meets joiningNextRanges before && meets joiningPreviousRanges rest)
      else true
    fits && joinersFit (c :: before) rest

/-- Whether a character is a mark of any kind that a label must not begin with. -/
def isMark (c : Char) : Bool :=
  isNonspacing c || inRanges spacingMarkRanges c.toNat

/-- Whether a label outside ASCII is well formed. -/
def isWellFormedLabel (label : List Char) : Bool :=
  !label.head?.any isMark && joinersFit [] label

/-- The text of a label; after the mark of an encoded label, the text that it decodes to. -/
def labelText? (label : List Char) : Option (List Char) :=
  match label with
  | 'x' :: 'n' :: '-' :: '-' :: encoded =>
    match Punycode.decode encoded with
    | some text =>
      if encoded.all isAscii && !text.all isAscii && text.all standsForItself &&
          Text.compose text == text && isWellFormedLabel text then some text
      else none
    | none => none
  | _ => if label.all isAscii || isWellFormedLabel label then some label else none

/-- The domain that a text is read as. -/
def domain? (cs : List Char) : Option (List Char) := do
  let domain := Text.compose (← cs.mapM standsFor?).flatten
  if domain.any forbiddenInDomain then none
  let labels ← (domain.splitOn '.').mapM labelText?
  if labels.any isRightToLeft && !labels.all hasOneDirection then none
  return domain

end EntityStore.Url
