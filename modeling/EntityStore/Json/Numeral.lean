import EntityStore.Binary64.Nearest
import EntityStore.Decimal.Shortest

/-!
# Numbers in JSON

A numeral is a number as it is written.  It can be read as a whole number, if it is written as
one, or as a double.

Reading a double collects the digits into a significand that fits sixty-four bits; digits that do
not fit are dropped, those before the point being counted in the exponent.  The significand is
rounded to a double and then scaled by a power of ten with one more rounding, so the result can
differ from the nearest double in its last bit.
-/

namespace EntityStore.Json

/-- A number in its written form; the digits are ASCII bytes. -/
structure Numeral where
  negative : Bool
  whole : List UInt8
  /-- The digits after the point; no digits mean no point. -/
  fraction : List UInt8
  /-- The sign and the digits of the exponent. -/
  exponent : Option (Bool × List UInt8)
deriving DecidableEq

/-- Whether a byte is a decimal digit. -/
def isDigit (b : UInt8) : Bool :=
  decide (0x30 ≤ b ∧ b ≤ 0x39)

namespace Numeral

/-- The ASCII digits of a number. -/
def digitBytes (n : Nat) : List UInt8 :=
  (Decimal.digitsOf n).map fun c => UInt8.ofNat c.toNat

/-- The number that digits are written for. -/
def digitsValue (digits : List UInt8) : Nat :=
  digits.foldl (fun n b => n * 10 + (b.toNat - 48)) 0

/-- The written form of a whole number. -/
def ofInt (n : Int) : Numeral :=
  ⟨decide (n < 0), digitBytes n.natAbs, [], none⟩

/-- The written form of a finite double: the shortest digits, with at least one on each side of
the point, unless the decimal exponent is below minus five or above fifteen; then one digit stands
before the point and the exponent is written out. -/
def ofBinary64 (x : Binary64) : Numeral :=
  let d := x.shortest .even
  let digits := digitBytes d.digits
  let leading : Int := d.exponent + digits.length - 1
  if d.digits = 0 then ⟨x.isNegative, [0x30], [0x30], none⟩
  else if leading < -5 ∨ 16 ≤ leading then
    ⟨x.isNegative, digits.take 1, digits.drop 1,
      some (decide (leading < 0), digitBytes leading.natAbs)⟩
  else if 0 ≤ d.exponent then
    ⟨x.isNegative, digits ++ List.replicate d.exponent.toNat 0x30, [0x30], none⟩
  else if 0 ≤ leading then
    ⟨x.isNegative, digits.take (leading.toNat + 1), digits.drop (leading.toNat + 1), none⟩
  else
    ⟨x.isNegative, [0x30], List.replicate (-leading - 1).toNat 0x30 ++ digits, none⟩

/-- The bytes of a numeral. -/
def write (n : Numeral) : List UInt8 :=
  (if n.negative then [0x2d] else []) ++ n.whole ++
    (if n.fraction.isEmpty then [] else 0x2e :: n.fraction) ++
    (match n.exponent with
    | none => []
    | some (negative, digits) => 0x65 :: (if negative then 0x2d else 0x2b) :: digits)

/-- Reads the digits after a point, if there is one. -/
def readFraction : List UInt8 → Option (List UInt8 × List UInt8)
  | b :: rest =>
    if b = 0x2e then
      let digits := rest.takeWhile isDigit
      if digits.isEmpty then none else some (digits, rest.dropWhile isDigit)
    else some ([], b :: rest)
  | [] => some ([], [])

/-- Reads an optional sign. -/
def readSign : List UInt8 → Bool × List UInt8
  | b :: rest =>
    if b = 0x2d then (true, rest) else if b = 0x2b then (false, rest) else (false, b :: rest)
  | [] => (false, [])

/-- Reads the sign and digits after a letter e, if there is one. -/
def readExponent : List UInt8 → Option (Option (Bool × List UInt8) × List UInt8)
  | b :: rest =>
    if b = 0x65 ∨ b = 0x45 then
      let (negative, more) := readSign rest
      let digits := more.takeWhile isDigit
      if digits.isEmpty then none else some (some (negative, digits), more.dropWhile isDigit)
    else some (none, b :: rest)
  | [] => some (none, [])

/-- Whether digits may stand before the point: at least one, and no zero in front of others. -/
def isWhole : List UInt8 → Bool
  | [] => false
  | [_] => true
  | b :: _ => b != 0x30

/-- Reads a numeral off the front. -/
def read (bytes : List UInt8) : Option (Numeral × List UInt8) := do
  let (negative, rest) := match bytes with
    | b :: rest => if b = 0x2d then (true, rest) else (false, bytes)
    | [] => (false, [])
  let whole := rest.takeWhile isDigit
  if !isWhole whole then none
  let (fraction, rest) ← readFraction (rest.dropWhile isDigit)
  let (exponent, rest) ← readExponent rest
  return (⟨negative, whole, fraction, exponent⟩, rest)

/-- The whole number that a numeral stands for: one without point and exponent, from `-2 ^ 63` to
`2 ^ 64 - 1`, and not minus zero. -/
def int? (n : Numeral) : Option Int :=
  if n.fraction.isEmpty && n.exponent.isNone then
    let value := digitsValue n.whole
    if n.negative then
      if 0 < value ∧ Int64.minValue.toInt ≤ -(value : Int) then some (-(value : Int)) else none
    else if value < UInt64.size then some value
    else none
  else none

/-- The signed sixty-four bit number that a numeral stands for. -/
def int64? (n : Numeral) : Option Int64 :=
  match n.int? with
  | some value => if value ≤ Int64.maxValue.toInt then some (Int64.ofInt value) else none
  | none => none

/-- The byte that a numeral stands for. -/
def byte? (n : Numeral) : Option UInt8 :=
  match n.int? with
  | some value => if 0 ≤ value ∧ value < 256 then some (UInt8.ofNat value.toNat) else none
  | none => none

/-- Collects digits while they fit sixty-four bits; answers the significand and how many digits
were dropped. -/
def collect (significand : Nat) : List UInt8 → Nat × Nat
  | [] => (significand, 0)
  | b :: rest =>
    let next := significand * 10 + (b.toNat - 48)
    if next < UInt64.size then collect next rest else (significand, rest.length + 1)

/-- The double nearest to a power of ten. -/
def powerOfTen (n : Nat) : Binary64 :=
  Binary64.nearest false (Decimal.tenTo n) 1

/-- Scales a double by a power of ten.  Exponents below the table of powers are reached in steps;
`steps` bounds them, and three always reach zero. -/
def scaleByTen : Nat → Binary64 → Int → Option Binary64
  | 0, x, _ => some x
  | steps + 1, x, exponent =>
    if exponent.natAbs ≤ 308 then
      if 0 ≤ exponent then
        let y := x.product (powerOfTen exponent.natAbs)
        if y.isInfinite then none else some y
      else some (x.quotient (powerOfTen exponent.natAbs))
    else if x.magnitude = 0 then some x
    else if 0 ≤ exponent then none
    else scaleByTen steps (x.quotient (powerOfTen 308)) (exponent + 308)

/-- The double that a numeral stands for; `none` when it is too large. -/
def binary64? (n : Numeral) : Option Binary64 :=
  let (significand, dropped) := collect 0 n.whole
  let (significand, unused) := collect significand n.fraction
  let kept : Int := dropped - ((n.fraction.length - unused : Nat) : Int)
  let scaled := match n.exponent with
    | none =>
      if n.fraction.isEmpty && dropped == 0 then some (Binary64.nearest false significand 1)
      else scaleByTen 4 (Binary64.nearest false significand 1) kept
    | some (negative, digits) =>
      let e := digitsValue digits
      if Int32.maxValue.toInt < e then
        if significand ≠ 0 ∧ !negative then none else some (Binary64.nearest false 0 1)
      else
        scaleByTen 4 (Binary64.nearest false significand 1)
          (if negative then kept - e else kept + e)
  scaled.map (Binary64.withSign n.negative)

end Numeral

end EntityStore.Json
