/-!
# Double-precision numbers as bit patterns

A `Binary64` is the sixty-four bits of a double.  Two values are the same value exactly when their
bits are, so a not-a-number has an identity and the two zeros are different values; the arithmetic
notions of equality and of at most are separate functions.

The order is total: it follows the sign and the magnitude of the pattern, which puts negative
not-a-numbers first, then negative numbers, the two zeros, positive numbers, and positive
not-a-numbers.
-/

namespace EntityStore

/-- The bits of a double-precision number. -/
structure Binary64 where
  bits : UInt64
deriving DecidableEq, Repr

namespace Binary64

/-- The sign bit. -/
def signBit : Nat :=
  0x8000000000000000

/-- The leading bit of a normal significand, which patterns leave out. -/
def hiddenBit : Nat :=
  0x10000000000000

/-- The bit pattern with the sign removed. -/
def magnitude (x : Binary64) : Nat :=
  x.bits.toNat % signBit

/-- Whether the sign bit is set. -/
def isNegative (x : Binary64) : Bool :=
  signBit ≤ x.bits.toNat

/-- The magnitude of the infinities; every larger magnitude is a not-a-number. -/
def infiniteMagnitude : Nat :=
  0x7ff0000000000000

/-- Whether a float is not a number, which many bit patterns mean. -/
def isNaN (x : Binary64) : Bool :=
  infiniteMagnitude < x.magnitude

/-- Whether a float is infinite, with either sign. -/
def isInfinite (x : Binary64) : Bool :=
  x.magnitude == infiniteMagnitude

/-- Assemble a pattern from a sign and a magnitude. -/
def ofMagnitude (negative : Bool) (magnitude : Nat) : Binary64 :=
  ⟨UInt64.ofNat (if negative then signBit + magnitude else magnitude)⟩

/-- Place in the total order: negative patterns downwards from minus one, the others upwards
from zero. -/
def rank (x : Binary64) : Int :=
  if x.isNegative then -1 - (x.magnitude : Int) else x.magnitude

instance : Ord Binary64 :=
  ⟨compareOn rank⟩

/-- Place among the numbers: like `rank`, but the two zeros share a place. -/
def signedMagnitude (x : Binary64) : Int :=
  if x.isNegative then -(x.magnitude : Int) else x.magnitude

/-- Arithmetic equality: a not-a-number equals nothing and the two zeros are equal. -/
def agrees (x y : Binary64) : Bool :=
  !x.isNaN && !y.isNaN && x.signedMagnitude == y.signedMagnitude

/-- Arithmetic at most; nothing is at most a not-a-number, nor the other way round. -/
def atMost (x y : Binary64) : Bool :=
  !x.isNaN && !y.isNaN && decide (x.signedMagnitude ≤ y.signedMagnitude)

/-- The significand of a finite number: it stands for `significand * 2 ^ scale`. -/
def significand (x : Binary64) : Nat :=
  if x.magnitude / hiddenBit = 0 then x.magnitude % hiddenBit
  else hiddenBit + x.magnitude % hiddenBit

/-- The power of two that the significand of a finite number is scaled by. -/
def scale (x : Binary64) : Int :=
  if x.magnitude / hiddenBit = 0 then -1074 else (x.magnitude / hiddenBit : Nat) - 1075

/-- Equal ranks come from equal patterns. -/
theorem rank_injective {x y : Binary64} (h : x.rank = y.rank) : x = y := by
  obtain ⟨a⟩ := x
  obtain ⟨b⟩ := y
  have ha := a.toNat_lt
  have hb := b.toNat_lt
  simp only [rank, isNegative, magnitude, decide_eq_true_eq] at h
  unfold signBit at h
  have hab : a.toNat = b.toNat := by
    split at h <;> split at h <;> omega
  rw [UInt64.toNat_inj.mp hab]

instance : Std.TransOrd Binary64 :=
  inferInstanceAs (Std.TransCmp (compareOn rank))

instance : Std.LawfulEqOrd Binary64 where
  eq_of_compare h := rank_injective (Std.LawfulEqOrd.eq_of_compare h)

end Binary64

end EntityStore
