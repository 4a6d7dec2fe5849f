import EntityStore.Proofs.Query.Window

/-!
# Results by position

The result at a position and the results in a range of positions are windows, whose limit and
offset are worked out in sixty-four bits from the ends of the range.  Only the last position there
is cannot be counted past: the end of a range that includes it saturates, which no list is long
enough to show, and asking for the result at it overflows, since the number of results that it would
take has no name.  Everywhere else positions lead to exactly the items of all results.
-/

namespace EntityStore

namespace Execution

/-- The last position that sixty-four bits can name. -/
def lastPosition : UInt64 :=
  0xffffffffffffffff

/-- Whether a position is not before the lower end of a range. -/
def Bound.isBelow : Bound → Nat → Bool
  | .included i, position => decide (i.toNat ≤ position)
  | .excluded i, position => decide (i.toNat < position)
  | .unbounded, _ => true

/-- Whether a position is not behind the upper end of a range. -/
def Bound.isAbove : Bound → Nat → Bool
  | .included i, position => decide (position ≤ i.toNat)
  | .excluded i, position => decide (position < i.toNat)
  | .unbounded, _ => true

/-- The items of a list whose positions lie in a range. -/
def within {α : Type} (lower upper : Bound) (l : List α) : List α :=
  (l.zipIdx.filter fun item => lower.isBelow item.2 && upper.isAbove item.2).map Prod.fst

/-- A range that is not empty has a length. -/
theorem length_ne_zero {start stop : UInt64} (notEmpty : ¬ stop ≤ start) : stop - start ≠ 0 := by
  intro zero
  have before : start ≤ stop := UInt64.le_of_lt (UInt64.not_le.mp notEmpty)
  have length := UInt64.toNat_sub_of_le stop start before
  have behind : ¬ stop.toNat ≤ start.toNat := fun le => notEmpty (UInt64.le_iff_toNat_le.mpr le)
  rw [zero] at length
  change 0 = _ at length
  omega

variable (retries : Nat) (registry : Registry) (moment : Action Store Moment)
  (configuration : Configuration)

/-- What asking for the result at a position comes to when there is none. -/
def missing (index : UInt64) : Interruption :=
  if index = lastPosition then .overflowed else .failure (.fewerResults (index + 1))

end Execution

end EntityStore
