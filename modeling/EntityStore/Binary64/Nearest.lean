import EntityStore.Binary64.Basic
import EntityStore.Decimal.Basic

/-!
# Rounding to the nearest double

`nearest` rounds a nonnegative rational to the nearest double, a half going to the even neighbour,
and gives an infinity past the largest one.  Products, quotients and decimals are rounded through
it, so each of them is rounded once.
-/

namespace EntityStore.Binary64

/-- The quotient rounded to the nearest whole number, a half going to the even neighbour. -/
def roundHalfEven (numerator denominator : Nat) : Nat :=
  let quotient := numerator / denominator
  let twice := 2 * (numerator % denominator)
  if twice < denominator then quotient
  else if denominator < twice then quotient + 1
  else quotient + quotient % 2

/-- The exponent of the leading bit of `numerator / denominator`. -/
def leadingBit (numerator denominator : Nat) : Int :=
  if denominator ≤ numerator then (Nat.log2 (numerator / denominator) : Int)
  else -(Nat.log2 ((denominator - 1) / numerator) + 1 : Nat)

/-- The double nearest to `numerator / denominator`, with the given sign. -/
def nearest (negative : Bool) (numerator denominator : Nat) : Binary64 :=
  if numerator = 0 then ofMagnitude negative 0
  else
    let step := max (leadingBit numerator denominator - 52) (-1074)
    let m := roundHalfEven (numerator <<< (-step).toNat) (denominator <<< step.toNat)
    ofMagnitude negative (min ((step + 1074).toNat * hiddenBit + m) infiniteMagnitude)

/-- The double nearest to a decimal.  Decimals far outside the range of doubles are settled by
their leading digit alone. -/
def ofDecimal (negative : Bool) (d : Decimal) : Binary64 :=
  let top := (Decimal.length d.digits : Int) + d.exponent
  if d.digits = 0 ∨ top < -400 then ofMagnitude negative 0
  else if 400 < top then ofMagnitude negative infiniteMagnitude
  else nearest negative (d.digits * Decimal.tenTo d.exponent.toNat)
    (Decimal.tenTo (-d.exponent).toNat)

/-- The rounded product of two finite numbers, taken positive. -/
def product (x y : Binary64) : Binary64 :=
  let power := x.scale + y.scale
  nearest false ((x.significand * y.significand) <<< power.toNat) (1 <<< (-power).toNat)

/-- The rounded quotient of two finite numbers, taken positive. -/
def quotient (x y : Binary64) : Binary64 :=
  let power := x.scale - y.scale
  nearest false (x.significand <<< power.toNat) (y.significand <<< (-power).toNat)

/-- The same magnitude with the given sign. -/
def withSign (negative : Bool) (x : Binary64) : Binary64 :=
  ofMagnitude negative x.magnitude

end EntityStore.Binary64
