import EntityStore.Binary64.Nearest
import EntityStore.Decimal.Shortest

/-!
# Doubles as text

A double is shown with the fewest digits that read back, written out in full: never with an
exponent, and without a fraction when it has none.  Reading accepts plain and scientific notation
and the names of the infinities and of the not-a-number.
-/

namespace EntityStore.Binary64

/-- The full positional text of a number. -/
def display (x : Binary64) : String :=
  if x.isNaN then "NaN"
  else
    let body := if x.isInfinite then "inf" else String.ofList (x.shortest .up).positional
    if x.isNegative then "-" ++ body else body

/-- Splits an optional sign off the front; the flag says whether the sign is a minus. -/
def takeSign : List Char → Bool × List Char
  | '-' :: rest => (true, rest)
  | '+' :: rest => (false, rest)
  | cs => (false, cs)

/-- Reads an exponent: nothing, or a letter e, an optional sign and at least one digit. -/
def exponentOf? : List Char → Option Int
  | [] => some 0
  | c :: rest =>
    if c = 'e' ∨ c = 'E' then
      let (negative, digits) := takeSign rest
      (Decimal.natOfDigits? digits).map fun n => if negative then -(n : Int) else n
    else none

/-- Reads the digits of an unsigned number around an optional point, then an exponent. -/
def decimalOf? (cs : List Char) : Option Decimal :=
  let whole := cs.takeWhile Decimal.isDigit
  let rest := cs.dropWhile Decimal.isDigit
  let (fraction, rest) := match rest with
    | '.' :: more => (more.takeWhile Decimal.isDigit, more.dropWhile Decimal.isDigit)
    | other => ([], other)
  if whole.isEmpty && fraction.isEmpty then none
  else
    (exponentOf? rest).map fun e =>
      ⟨Decimal.value (whole ++ fraction), e - fraction.length⟩

/-- The pattern of the quiet not-a-number. -/
def quietNaN (negative : Bool) : Binary64 :=
  ofMagnitude negative 0x7ff8000000000000

/-- Lower-cases the ASCII letters of a text. -/
def asciiLower (cs : List Char) : String :=
  String.ofList (cs.map Char.toLower)

/-- Reads a number: an optional sign, then digits with an optional point and exponent, or one of
the words `inf`, `infinity` and `nan` in any letter case.  Nothing may stand around it. -/
def parse? (s : String) : Option Binary64 :=
  let (negative, cs) := takeSign s.toList
  let word := asciiLower cs
  if word = "inf" ∨ word = "infinity" then some (ofMagnitude negative infiniteMagnitude)
  else if word = "nan" then some (quietNaN negative)
  else (decimalOf? cs).map (ofDecimal negative)

end EntityStore.Binary64
