import EntityStore.Proofs.Order.Entity
import EntityStore.Proofs.Order.Preorder
import EntityStore.Query.Cursor

/-!
# Where results stand

Two records are compared under one order after the other, each outcome reversed where the order
descends.  The first order that tells them apart decides, and their keys do when none does.  So
results are totally ordered, only records of one key are level, and a cursor after a record precedes
exactly the records that come later.
-/

namespace EntityStore

theorem firstDecided_ne_eq (outcomes : List Ordering) : firstDecided outcomes ≠ some .eq := by
  induction outcomes with
  | nil => nofun
  | cons first rest inductionHypothesis => cases first <;> simp [firstDecided, inductionHypothesis]

namespace Entity

/-- How two records compare under a single order. -/
def orderUnder (a b : Entity) (o : SortOrder) : Ordering :=
  o.direction.apply
    (orderOptional (a.sortValue o.property o.direction) (b.sortValue o.property o.direction))

theorem orderValues_sortValues (a b : Entity) (orders : List SortOrder) :
    orderValues (a.sortValues orders) (b.sortValues orders) orders =
      (firstDecided (orders.map (a.orderUnder b))).getD .eq := by
  induction orders with
  | nil => rfl
  | cons o os inductionHypothesis =>
      calc orderValues (a.sortValues (o :: os)) (b.sortValues (o :: os)) (o :: os)
          = (a.orderUnder b o).then (orderValues (a.sortValues os) (b.sortValues os) os) := rfl
        _ = (firstDecided ((o :: os).map (a.orderUnder b))).getD .eq := by
            rw [inductionHypothesis, List.map_cons]
            cases decided : a.orderUnder b o <;> simp [firstDecided]

/-- The first order that tells two records apart decides, or else their keys do. -/
theorem order_eq_firstDecided (a b : Entity) (orders : List SortOrder) :
    a.order b orders =
      (firstDecided (orders.map (a.orderUnder b))).getD (compare a.key b.key) := by
  change (orderValues (a.sortValues orders) (b.sortValues orders) orders).then
    (compare a.key b.key) = _
  rw [orderValues_sortValues]
  cases decided : firstDecided (orders.map (a.orderUnder b)) with
  | none => rfl
  | some outcome =>
      cases outcome with
      | eq => exact absurd decided (firstDecided_ne_eq _)
      | lt | gt => rfl

end Entity

namespace Cursor

/-- A cursor after a record precedes the records that come later. -/
theorem precedes_after (x e : Entity) (orders : List SortOrder) :
    (after x orders).precedes e orders = true ↔ x.order e orders = .lt := by
  rw [Entity.order_swap x e]
  change (e.order x orders == .gt) = true ↔ _
  cases e.order x orders <;> simp

end Cursor

/-- Results are totally ordered: by the first order that decides and then by their keys, so that no
record is after its own cursor. -/
theorem Entity.results_totally_ordered (orders : List SortOrder) (a b c : Entity) :
    a.order b orders =
        (firstDecided (orders.map (a.orderUnder b))).getD (compare a.key b.key) ∧
      a.order a orders = .eq ∧
      b.order a orders = (a.order b orders).swap ∧
      ((a.order b orders).isLE → (b.order c orders).isLE → (a.order c orders).isLE) ∧
      (a.order b orders = .lt → b.order c orders = .lt → a.order c orders = .lt) ∧
      (a.order b orders = .eq → a.key = b.key ∧ a.order c orders = b.order c orders) ∧
      ((Cursor.after a orders).precedes b orders = true ↔ a.order b orders = .lt) ∧
      (Cursor.after a orders).precedes a orders = false := by
  have laws : Std.TransCmp fun a b : Entity => a.order b orders := inferInstance
  have notAfterItself : (Cursor.after a orders).precedes a orders = false := by
    rw [Bool.eq_false_iff, ne_eq, Cursor.precedes_after, order_self]
    decide
  refine ⟨order_eq_firstDecided a b orders, order_self a, order_swap b a, isLE_order_trans,
    laws.lt_trans, ?_, Cursor.precedes_after a b orders, notAfterItself⟩
  intro level
  exact ⟨key_eq_of_order_eq level, laws.congr_left level⟩

end EntityStore
