/-!
# Punycode

A label that is not ASCII travels as ASCII: its ASCII characters, a hyphen if there are any, and
then a number for each other character.  A number says how far to count from the last insertion,
running through all places of the text for one code point and then on to the next code point.

The digits of a number have weights that grow by a factor between ten and thirty-five, and a small
digit ends the number.  What counts as small adapts to the size of the last number.
-/

namespace EntityStore.Url.Punycode

/-- The value of a digit: letters first, then the decimal digits. -/
def digitValue? (c : Char) : Option Nat :=
  if 'a' ≤ c ∧ c ≤ 'z' then some (c.toNat - 97)
  else if 'A' ≤ c ∧ c ≤ 'Z' then some (c.toNat - 65)
  else if '0' ≤ c ∧ c ≤ '9' then some (c.toNat - 48 + 26)
  else none

/-- A digit below the threshold of its place ends a number. -/
def threshold (place bias : Nat) : Nat :=
  min 26 (max 1 (place - bias))

/-- Reads a number from its digits, the least significant one first. -/
def readNumber (bias weight place : Nat) : List Char → Option (Nat × List Char)
  | [] => none
  | c :: rest => do
    let digit ← digitValue? c
    let limit := threshold place bias
    if digit < limit then return (digit * weight, rest)
    let (number, rest) ← readNumber bias (weight * (36 - limit)) (place + 36) rest
    return (digit * weight + number, rest)

/-- A number takes at least one digit. -/
theorem length_of_readNumber {bias weight place number : Nat} {cs rest : List Char}
    (h : readNumber bias weight place cs = some (number, rest)) : rest.length < cs.length := by
  induction cs generalizing weight place number with
  | nil => simp [readNumber] at h
  | cons c cs ih =>
    simp only [readNumber, Option.bind_eq_bind, Option.bind_eq_some_iff] at h
    obtain ⟨digit, _, h⟩ := h
    split at h
    · cases h
      exact Nat.lt_succ_self _
    · obtain ⟨⟨number', rest'⟩, h', heq⟩ := Option.bind_eq_some_iff.1 h
      cases heq
      exact Nat.lt_succ_of_lt (ih h')

/-- Divides until a number is small; answers it and the sum of thirty-six for each division. -/
def shrink (number skew : Nat) : Nat × Nat :=
  if 455 < number then shrink (number / 35) (skew + 36) else (number, skew)
termination_by number

/-- The bias after a number that led to a text of `length` characters. -/
def adapt (number length : Nat) (isFirst : Bool) : Nat :=
  let halved := if isFirst then number / 700 else number / 2
  let (small, skew) := shrink (halved + halved / length) 0
  skew + 36 * small / (small + 38)

/-- Inserts the characters that the numbers stand for. -/
def insertAll (codePoint index bias : Nat) (text cs : List Char) : Option (List Char) :=
  if cs.isEmpty then some text
  else
    match _read : readNumber bias 1 36 cs with
    | none => none
    | some (number, rest) =>
      let places := text.length + 1
      let total := index + number
      let next := codePoint + total / places
      if next.isValidChar then
        insertAll next (total % places + 1) (adapt number places (index == 0))
          (text.insertIdx (total % places) (Char.ofNat next)) rest
      else none
termination_by cs.length
decreasing_by exact length_of_readNumber _read

/-- Splits a label at its last hyphen; a hyphen in front is no separator. -/
def split (label : List Char) : List Char × List Char :=
  let digits := (label.reverse.takeWhile (· != '-')).reverse
  if digits.length + 1 < label.length then (label.take (label.length - digits.length - 1), digits)
  else ([], label)

/-- The text that a label stands for. -/
def decode (label : List Char) : Option (List Char) :=
  let (ascii, digits) := split label
  insertAll 128 0 72 ascii digits

end EntityStore.Url.Punycode
