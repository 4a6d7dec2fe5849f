import EntityStore.Entity
import EntityStore.Proofs.Order.Value

/-!
# The order of results is total

`Position.order` compares the sort values that both positions have, which is no order on rows of
arbitrary lengths.  A position that was taken under a list of orders has one value for each of
them.  On these positions the order agrees with `Position.orderPadded`, which reads a missing value
as absent and is a total preorder on all positions.  Two records of the same rank have the same key.
-/

namespace EntityStore

instance : Std.TransCmp orderOptional where
  eq_swap {a b} := by
    cases a <;> cases b <;> simp only [orderOptional, Ordering.swap]
    exact Std.OrientedCmp.eq_swap
  isLE_trans {a b c} := by
    cases a <;> cases b <;> cases c <;> simp only [orderOptional]
    case some.some.some => exact Std.TransCmp.isLE_trans
    all_goals simp

instance {α : Type} {c : α → α → Ordering} [laws : Std.TransCmp c] (direction : Direction) :
    Std.TransCmp fun a b => direction.apply (c a b) where
  eq_swap {x y} := by
    rw [laws.eq_swap]
    cases direction <;> rfl
  isLE_trans {x y z} := by
    cases direction with
    | ascending => exact laws.isLE_trans
    | descending =>
        simp only [Direction.apply, Ordering.isLE_swap]
        exact Std.TransCmp.isGE_trans

/-- The order of two rows of sort values of which a missing one counts as absent. -/
def orderRows : List SortOrder → List (Option Value) → List (Option Value) → Ordering
  | [] => fun _ _ => .eq
  | o :: os => compareLex
      (fun as bs => o.direction.apply (orderOptional as.head?.join bs.head?.join))
      (fun as bs => orderRows os as.tail bs.tail)

instance (orders : List SortOrder) : Std.TransCmp (orderRows orders) := by
  induction orders with
  | nil => exact { eq_swap := rfl, isLE_trans := fun _ _ => rfl }
  | cons o os ih =>
      have heads : Std.TransCmp fun as bs : List (Option Value) =>
          o.direction.apply (orderOptional as.head?.join bs.head?.join) :=
        transCmp_comap (c := fun a b => o.direction.apply (orderOptional a b))
          fun row : List (Option Value) => row.head?.join
      have tails : Std.TransCmp fun as bs : List (Option Value) => orderRows os as.tail bs.tail :=
        transCmp_comap (List.tail : List (Option Value) → _)
      unfold orderRows
      infer_instance

theorem orderValues_eq_orderRows {as bs : List (Option Value)} {orders : List SortOrder}
    (asFit : as.length = orders.length) (bsFit : bs.length = orders.length) :
    orderValues as bs orders = orderRows orders as bs := by
  induction orders generalizing as bs with
  | nil => simp [orderValues, orderRows]
  | cons o os ih =>
      obtain ⟨a, as, rfl⟩ := List.exists_cons_of_length_eq_add_one asFit
      obtain ⟨b, bs, rfl⟩ := List.exists_cons_of_length_eq_add_one bsFit
      simp only [List.length_cons, Nat.add_right_cancel_iff] at asFit bsFit
      rw [orderValues, ih asFit bsFit]
      rfl

namespace Position

/-- Whether a position was taken under as many orders as there are. -/
def Fits (p : Position) (orders : List SortOrder) : Prop :=
  p.values.length = orders.length

/-- The order of positions of which a missing sort value counts as absent. -/
def orderPadded (orders : List SortOrder) : Position → Position → Ordering :=
  compareLex (fun a b => orderRows orders a.values b.values) (compareOn key)

instance (orders : List SortOrder) : Std.TransCmp (orderPadded orders) := by
  have rows := transCmp_comap (c := orderRows orders) Position.values
  unfold orderPadded
  infer_instance

theorem order_eq_orderPadded {a b : Position} {orders : List SortOrder}
    (aFits : a.Fits orders) (bFits : b.Fits orders) :
    a.order b orders = orderPadded orders a b := by
  rw [order, orderValues_eq_orderRows aFits bFits]
  rfl

end Position

namespace Entity

theorem position_fits (e : Entity) (orders : List SortOrder) : (e.position orders).Fits orders := by
  simp [position, Position.Fits, sortValues]

/-- Records are totally preordered by their positions. -/
instance transCmp_order (orders : List SortOrder) :
    Std.TransCmp fun a b : Entity => a.order b orders := by
  have agrees : (fun a b : Entity => a.order b orders) =
      fun a b => Position.orderPadded orders (a.position orders) (b.position orders) := by
    funext a b
    exact Position.order_eq_orderPadded (a.position_fits orders) (b.position_fits orders)
  rw [agrees]
  exact transCmp_comap _

variable {orders : List SortOrder}

theorem order_self (e : Entity) : e.order e orders = .eq := by
  have reflexive : Std.ReflCmp fun a b : Entity => a.order b orders := inferInstance
  exact reflexive.compare_self

theorem order_swap (a b : Entity) : a.order b orders = (b.order a orders).swap :=
  (transCmp_order orders).eq_swap

theorem order_asymm {a b : Entity} (before : a.order b orders = .lt) : b.order a orders ≠ .lt := by
  rw [order_swap, before]
  decide

theorem isLE_of_order_lt {a b : Entity} (before : a.order b orders = .lt) :
    (a.order b orders).isLE := by
  simp [before]

theorem isLE_of_order_ne_lt {a b : Entity} (notBefore : a.order b orders ≠ .lt) :
    (b.order a orders).isLE := by
  rw [order_swap]
  cases place : a.order b orders <;> simp_all

theorem isLE_order_self (e : Entity) : (e.order e orders).isLE := by
  simp [order_self e]

theorem isLE_order_trans {a b c : Entity} (ab : (a.order b orders).isLE)
    (bc : (b.order c orders).isLE) : (a.order c orders).isLE :=
  (transCmp_order orders).isLE_trans ab bc

/-- Only records with one key have the same place. -/
theorem key_eq_of_order_eq {a b : Entity}
    (tie : a.order b orders = .eq) : a.key = b.key :=
  Std.LawfulEqOrd.eq_of_compare (Ordering.then_eq_eq.mp tie).2

end Entity

end EntityStore
