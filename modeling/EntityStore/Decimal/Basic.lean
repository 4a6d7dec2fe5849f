/-!
# Decimal digits

A decimal is a whole number of digits scaled by a power of ten.  This file counts and prints
digits, and reads a digit string back into a number.
-/

namespace EntityStore

/-- The number `digits * 10 ^ exponent`. -/
structure Decimal where
  digits : Nat
  exponent : Int
deriving DecidableEq, Repr

namespace Decimal

/-- A power of ten. -/
def tenTo (n : Nat) : Nat :=
  Nat.pow 10 n

/-- How many decimal digits `n` is written with; zero takes one. -/
def length (n : Nat) : Nat :=
  if n < 10 then 1 else length (n / 10) + 1
termination_by n

/-- The value of one decimal digit. -/
def digitValue? (c : Char) : Option Nat :=
  if '0' ≤ c ∧ c ≤ '9' then some (c.toNat - '0'.toNat) else none

/-- Whether a character is one of the ten ASCII digits. -/
def isDigit (c : Char) : Bool :=
  (digitValue? c).isSome

/-- The digits of a number, most significant first. -/
def digitsOf (n : Nat) : List Char :=
  Nat.toDigits 10 n

/-- The number that a run of digits is written for, continuing from `start`. -/
def valueFrom (start : Nat) : List Char → Nat
  | [] => start
  | c :: rest => valueFrom (start * 10 + (c.toNat - '0'.toNat)) rest

/-- The number that a run of digits is written for. -/
def value (digits : List Char) : Nat :=
  valueFrom 0 digits

/-- Reads a nonempty run of digits and nothing else. -/
def natOfDigits? (digits : List Char) : Option Nat :=
  if digits.isEmpty || !digits.all isDigit then none else some (value digits)

/-- Reads an unsigned number below `bound`; one leading plus sign is allowed. -/
def boundedNat? (bound : Nat) (text : String) : Option Nat :=
  let digits := match text.toList with
    | '+' :: rest => rest
    | cs => cs
  match natOfDigits? digits with
  | some n => if n < bound then some n else none
  | none => none

/-- `n` written with at least `width` digits, filled with zeros on the left. -/
def padded (width n : Nat) : String :=
  let digits := digitsOf n
  String.ofList (List.replicate (width - digits.length) '0' ++ digits)

/-- A decimal written out in full, without an exponent and without a fraction when it has none. -/
def positional (d : Decimal) : List Char :=
  let digits := digitsOf d.digits
  if 0 ≤ d.exponent then
    digits ++ List.replicate d.exponent.toNat '0'
  else
    let places := (-d.exponent).toNat
    if places < digits.length then
      digits.take (digits.length - places) ++ '.' :: digits.drop (digits.length - places)
    else
      '0' :: '.' :: List.replicate (places - digits.length) '0' ++ digits

end Decimal

end EntityStore
