import EntityStore.Proofs.Model.Record
import EntityStore.Proofs.Order.Preorder
import EntityStore.Proofs.Query.FanOut

/-!
# Comparing stored forms

Widening changes the type of a date or a time of day and leaves its place in the order as it is.
So the stored form of what an instance holds satisfies an operator exactly when the held value
does, and so it is with the operand.  A list property that holds null is the exception: it is
stored like an empty list, which satisfies nothing.
-/

namespace EntityStore

namespace Value

theorem sameFamily_widen (a b : Value) : a.widen.sameFamily b = a.sameFamily b := by
  cases a <;> rfl

theorem sameFamily_widen_right (a b : Value) : a.sameFamily b.widen = a.sameFamily b := by
  cases b <;> rfl

/-- A widened value has the place of the value itself. -/
theorem order_widen (a b : Value) : a.widen.order b = a.order b := by
  cases a with
  | date | time =>
    rw [order_eq_orderByType, order_eq_orderByType]
    cases b <;> rfl
  | _ => rfl

theorem order_widen_right (a b : Value) : a.order b.widen = a.order b := by
  have swapped : ∀ x y : Value, x.order y = (y.order x).swap := fun x y => Std.OrientedCmp.eq_swap
  rw [swapped, order_widen, ← swapped]

end Value

namespace Operator

variable (op : Operator) (stored operand : Value)

theorem compares_widen : op.compares stored.widen operand = op.compares stored operand := by
  rw [compares, compares, Value.sameFamily_widen, Value.order_widen]

theorem compares_widen_right : op.compares stored operand.widen = op.compares stored operand := by
  rw [compares, compares, Value.sameFamily_widen_right, Value.order_widen_right]

theorem holdsForOne_widen :
    op.holdsForOne stored.widen operand = op.holdsForOne stored operand := by
  unfold holdsForOne
  split
  · simp only [compares_widen]
  · exact compares_widen op stored operand

theorem holdsForOne_normalize :
    op.holdsForOne stored (op.normalize operand) = op.holdsForOne stored operand := by
  cases op with
  | isIn =>
    cases operand with
    | list choices => simp [normalize, holdsForOne, Function.comp_def, compares_widen_right]
    | date d => exact compares_widen_right .isIn stored (.date d)
    | time t => exact compares_widen_right .isIn stored (.time t)
    | _ => rfl
  | _ => exact compares_widen_right _ stored operand

/-- Widening what is stored changes no comparison. -/
theorem holds_widen : op.holds stored.widen operand = op.holds stored operand := by
  cases stored with
  | date d => exact op.holdsForOne_widen (.date d) operand
  | time t => exact op.holdsForOne_widen (.time t) operand
  | _ => rfl

/-- Neither does widening the items of a list. -/
theorem holdsForSome_widen (items : List Value) :
    op.holdsForSome (items.map Value.widen) operand = op.holdsForSome items operand := by
  induction items with
  | nil => rfl
  | cons item rest inductionHypothesis =>
    rw [List.map_cons, holdsForSome, holdsForSome, holds_widen, inductionHypothesis]

/-- Nor does bringing the operand into the form in which it is compared. -/
theorem holds_normalize : op.holds stored (op.normalize operand) = op.holds stored operand := by
  rw [holds_eq_any_scalars, holds_eq_any_scalars]
  simp only [holdsForOne_normalize]

end Operator

/-- The stored form of a held value satisfies what the held value satisfies, except that a list
property that holds null satisfies nothing. -/
theorem Property.holds_storedForm {p : Property} {v : Value} (held : p.Holds v) (op : Operator)
    (operand : Value) :
    op.holds (p.storedForm v) operand = true ↔
      (p.kind.isList = true → v ≠ .null) ∧ op.holds v operand = true := by
  unfold storedForm
  cases kind : p.kind with
  | date | time =>
    rw [op.holds_widen v operand]
    exact (and_iff_right fun isList => absurd isList Bool.false_ne_true).symm
  | list item =>
    rcases held.of_list kind with rfl | ⟨items, rfl, -⟩
    · exact iff_of_false nofun fun both => both.1 rfl rfl
    · have widened : op.holds (.list (items.map Value.widen)) operand =
          op.holds (.list items) operand := op.holdsForSome_widen operand items
      rw [Value.list?, Option.getD_some, widened]
      exact (and_iff_right fun _ => Value.noConfusion).symm
  | _ => exact (and_iff_right fun isList => absurd isList Bool.false_ne_true).symm

/-- A list that left no field satisfies a clause as little as an empty list does. -/
theorem Clause.accepts_of_field {name : String} {e : Entity} {stored : Value}
    (placed : e.indexedValue name = stored.field?) (op : Operator) (operand : Value) :
    Clause.accepts ⟨name, op, operand⟩ e = op.holds stored operand := by
  rw [accepts, placed]
  by_cases nothing : stored = .list []
  · rw [nothing]
    rfl
  · rw [Value.field?_of_ne nothing]

end EntityStore
