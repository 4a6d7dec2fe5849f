import EntityStore.Binary64.Basic
import EntityStore.Decimal.Basic

/-!
# The shortest decimal that reads back

Every finite double owns an interval of the rationals: those that round to it.  The shortest
decimal of a double is the point of the coarsest decimal grid that has a point in this interval,
and the nearest such point when the grid has two.  All comparisons are made on natural numbers.
-/

namespace EntityStore

/-- Which of two equally near decimals is taken. -/
inductive Tie where
  /-- The one whose last digit is even. -/
  | even
  /-- The larger one. -/
  | up
deriving DecidableEq, Repr

/-- The rationals that round to one number, as numerators over one denominator. -/
structure RoundingInterval where
  low : Nat
  value : Nat
  high : Nat
  denominator : Nat
  /-- Whether the two ends belong to the interval. -/
  closed : Bool

namespace RoundingInterval

/-- The rationals that round to the magnitude of a finite nonzero double.  The gap below a power
of two is half as wide as the one above it. -/
def ofBinary64 (x : Binary64) : RoundingInterval :=
  let m := x.significand
  let below := if m = Binary64.hiddenBit ∧ x.scale ≠ -1074 then 1 else 2
  let power := x.scale - 2
  let up := 1 <<< power.toNat
  { low := (4 * m - below) * up
    value := 4 * m * up
    high := (4 * m + 2) * up
    denominator := 1 <<< (-power).toNat
    closed := m % 2 == 0 }

/-- Whether `c * 10 ^ k` lies in the interval, for the scaling `n / d` of the grid `10 ^ k`. -/
def contains (i : RoundingInterval) (n d c : Nat) : Bool :=
  if i.closed then decide (i.low * n ≤ c * d) && decide (c * d ≤ i.high * n)
  else decide (i.low * n < c * d) && decide (c * d < i.high * n)

/-- The multiple of `10 ^ k` in the interval that is nearest to the value, if there is one. -/
def onGrid (i : RoundingInterval) (tie : Tie) (k : Int) : Option Nat :=
  let n := Decimal.tenTo (-k).toNat
  let d := i.denominator * Decimal.tenTo k.toNat
  let c := i.value * n / d
  match i.contains n d c, i.contains n d (c + 1) with
  | false, false => none
  | true, false => some c
  | false, true => some (c + 1)
  | true, true =>
    let twice := 2 * (i.value * n)
    let middle := (2 * c + 1) * d
    if twice < middle then some c
    else if middle < twice then some (c + 1)
    else
      match tie with
      | .up => some (c + 1)
      | .even => some (c + c % 2)

/-- The decimal exponent of the first digit of `numerator / denominator`. -/
def leadingExponent (numerator denominator : Nat) : Int :=
  if denominator ≤ numerator then (Decimal.length (numerator / denominator) : Int) - 1
  else -(Decimal.length ((denominator - 1) / numerator) : Int)

/-- The decimal with the fewest digits in the interval; seventeen always suffice.  The coarsest
grid that counts is the one above the first digit of the value, where the value may round up. -/
def shortest (i : RoundingInterval) (tie : Tie) : Decimal :=
  let top := leadingExponent i.value i.denominator + 1
  let found := (List.range 18).findSome? fun (digits : Nat) =>
    let k := top - digits
    (i.onGrid tie k).map fun c => (⟨c, k⟩ : Decimal)
  found.getD ⟨0, 0⟩

end RoundingInterval

/-- The shortest decimal that reads back as the magnitude of a finite number. -/
def Binary64.shortest (x : Binary64) (tie : Tie) : Decimal :=
  if x.magnitude = 0 then ⟨0, 0⟩ else (RoundingInterval.ofBinary64 x).shortest tie

end EntityStore
