import EntityStore.Text.CompositionTables
import EntityStore.Text.Ranges

/-!
# Composed text

In composed text a letter and the marks on it are as few characters as there are for them.  To
compose a text, every character is taken apart, the marks on a letter are sorted by their classes,
and what belongs together is put together again from the left.  A mark that stands behind another
one of its class, or of a higher one, is out of reach of the letter.

Syllables of the Korean script are composed by their numbers.  Characters that do not occur in
composed text at all are left as they are.
-/

namespace EntityStore.Text

/-- The class of a combining mark, which is zero for every other character. -/
def combiningClass (c : Char) : Nat :=
  (combiningRanges.findSome? fun (mark, ranges) =>
    if inRanges ranges c.toNat then some mark else none).getD 0

/-- Takes a character apart by tables in which what is composed from a composed character comes
before that one. -/
def takeApartBy : List (Nat × List (Nat × Nat)) → Char → List Char
  | [], c => [c]
  | (second, pairs) :: tables, c =>
    match pairs.find? fun (_, composed) => composed == c.toNat with
    | some (first, _) => takeApartBy tables (Char.ofNat first) ++ [Char.ofNat second]
    | none => takeApartBy tables c

/-- The number of a Korean syllable.  There are twenty-one vowels, and twenty-eight ways to end,
the first of which is to end in the vowel. -/
def syllableNumber? (c : Char) : Option Nat :=
  if 0xac00 ≤ c.toNat ∧ c.toNat < 0xd7a4 then some (c.toNat - 0xac00) else none

/-- The characters that a character is composed from. -/
def takeApart (c : Char) : List Char :=
  match syllableNumber? c with
  | some n =>
    let syllable := [Char.ofNat (0x1100 + n / 588), Char.ofNat (0x1161 + n % 588 / 28)]
    if n % 28 = 0 then syllable else syllable ++ [Char.ofNat (0x11a7 + n % 28)]
  | none => takeApartBy compositions c

/-- The character that two characters compose to. -/
def putTogether? (a b : Char) : Option Char :=
  if 0x1100 ≤ a.toNat ∧ a.toNat < 0x1113 ∧ 0x1161 ≤ b.toNat ∧ b.toNat < 0x1176 then
    some (Char.ofNat (0xac00 + ((a.toNat - 0x1100) * 21 + (b.toNat - 0x1161)) * 28))
  else if (syllableNumber? a).any (· % 28 == 0) ∧ 0x11a8 ≤ b.toNat ∧ b.toNat < 0x11c3 then
    some (Char.ofNat (a.toNat + (b.toNat - 0x11a7)))
  else
    compositions.findSome? fun (second, pairs) =>
      if second = b.toNat then
        (pairs.find? fun (first, _) => first == a.toNat).map fun (_, composed) =>
          Char.ofNat composed
      else none

/-- Puts a character before text with sorted marks; a mark goes behind marks of lower classes. -/
def insertMark (c : Char) : List Char → List Char
  | [] => [c]
  | d :: rest =>
    if 0 < combiningClass d && combiningClass d < combiningClass c then d :: insertMark c rest
    else c :: d :: rest

/-- Sorts the marks on each letter by their classes. -/
def sortMarks (text : List Char) : List Char :=
  text.foldr insertMark []

/-- Composes a letter with the text that follows it; `passed` holds the marks that stay apart from
the letter, last first. -/
def composeWith (letter : Char) (passed : List Char) : List Char → List Char
  | [] => letter :: passed.reverse
  | c :: rest =>
    let inReach := passed.all fun mark => combiningClass mark < combiningClass c
    match if inReach then putTogether? letter c else none with
    | some composed => composeWith composed passed rest
    | none =>
      if combiningClass c = 0 then letter :: (passed.reverse ++ composeWith c [] rest)
      else composeWith letter (c :: passed) rest

/-- Puts together what belongs together, from the first letter on. -/
def putAllTogether : List Char → List Char
  | [] => []
  | c :: rest => if combiningClass c = 0 then composeWith c [] rest else c :: putAllTogether rest

/-- The composed form of a text. -/
def compose (text : List Char) : List Char :=
  putAllTogether (sortMarks (text.flatMap takeApart))

end EntityStore.Text
