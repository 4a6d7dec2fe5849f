import EntityStore.Value.Order

/-!
# The order of values is a total preorder

Two values that are not both lists are ordered by their families and then by the reading that the
family has.  Lists follow the lexicographic order of their items.  The order is approximated from
below: `orderToDepth n` compares lists only down to depth `n`, so each approximation inherits its
laws from lexicographic comparison, and a pair of values is compared by every approximation that is
deep enough.
-/

namespace EntityStore

/-- Comparing a part of each value inherits the laws of the comparison. -/
theorem transCmp_comap {α β : Type} {c : β → β → Ordering} [laws : Std.TransCmp c] (part : α → β) :
    Std.TransCmp fun a b => c (part a) (part b) where
  eq_swap := laws.eq_swap
  isLE_trans := laws.isLE_trans

namespace Value

instance : Std.TransCmp orderWithin := by
  unfold orderWithin
  infer_instance

/-- The order of values that pays no attention to the items of lists. -/
def orderScalar : Value → Value → Ordering :=
  compareLex (compareOn family) orderWithin

instance : Std.TransCmp orderScalar := by
  unfold orderScalar
  infer_instance

/-- The items of a list; other values have none. -/
def items : Value → List Value
  | .list items => items
  | _ => []

/-- The order of values that compares the items of lists down to a depth. -/
def orderToDepth : Nat → Value → Value → Ordering
  | 0 => orderScalar
  | depth + 1 => compareLex orderScalar fun a b =>
      List.compareLex (orderToDepth depth) a.items b.items

instance transCmp_orderToDepth (depth : Nat) : Std.TransCmp (orderToDepth depth) := by
  induction depth with
  | zero => exact inferInstanceAs (Std.TransCmp orderScalar)
  | succ depth ih =>
      have byItems := transCmp_comap (c := List.compareLex (orderToDepth depth)) items
      unfold orderToDepth
      infer_instance

/-- Values of different families are never equal. -/
theorem orderScalar_ne_eq {a b : Value} (families : a.family ≠ b.family) :
    orderScalar a b ≠ .eq := by
  intro equal
  have sameFamily : compareOn family a b = .eq := (compareLex_eq_eq.mp equal).1
  exact families (Std.LawfulEqOrd.eq_of_compare sameFamily)

theorem orderItems_eq_compareLex {as bs : List Value} {cmp : Value → Value → Ordering}
    (agree : ∀ a ∈ as, ∀ b, order a b = cmp a b) :
    orderItems as bs = List.compareLex cmp as bs := by
  induction as generalizing bs with
  | nil => cases bs <;> simp [orderItems, List.compareLex]
  | cons a as ih =>
      cases bs with
      | nil => simp [orderItems, List.compareLex]
      | cons b bs =>
          rw [orderItems, List.compareLex_cons_cons, agree a List.mem_cons_self b]
          rw [ih fun x hx => agree x (List.mem_cons_of_mem a hx)]

/-- The order looks at the items only when both values are lists. -/
theorem order_eq_orderScalar {a b : Value} (notBoth : ¬(a.family = 10 ∧ b.family = 10)) :
    order a b = orderScalar a b := by
  unfold order
  split
  · exact absurd ⟨rfl, rfl⟩ notBoth
  · rfl

theorem items_eq_nil {a : Value} (notList : a.family ≠ 10) : a.items = [] := by
  cases a with
  | list as => exact absurd rfl notList
  | _ => rfl

theorem exists_eq_list {a : Value} (isList : a.family = 10) : ∃ as, a = .list as := by
  cases a with
  | list as => exact ⟨as, rfl⟩
  | _ => simp [family] at isList

/-- Every approximation that is deeper than the first value compares it exactly. -/
theorem order_eq_orderToDepth {depth : Nat} {a : Value} (deep : sizeOf a ≤ depth) (b : Value) :
    order a b = orderToDepth depth a b := by
  induction depth generalizing a b with
  | zero => cases a <;> simp at deep
  | succ depth ih =>
      simp only [orderToDepth, compareLex]
      by_cases bothLists : a.family = 10 ∧ b.family = 10
      · obtain ⟨as, rfl⟩ := exists_eq_list bothLists.1
        obtain ⟨bs, rfl⟩ := exists_eq_list bothLists.2
        have itemsAgree : ∀ x ∈ as, ∀ y, order x y = orderToDepth depth x y := by
          intro x hx y
          have smaller := List.sizeOf_lt_of_mem hx
          simp only [list.sizeOf_spec] at deep
          exact ih (by omega) y
        exact orderItems_eq_compareLex itemsAgree
      · rw [order_eq_orderScalar bothLists]
        by_cases sameFamily : a.family = b.family
        · have noItems : a.items = [] ∧ b.items = [] :=
            ⟨items_eq_nil (by omega), items_eq_nil (by omega)⟩
          rw [noItems.1, noItems.2, List.compareLex_nil_nil, Ordering.then_eq]
        · cases decided : orderScalar a b with
          | eq => exact absurd decided (orderScalar_ne_eq sameFamily)
          | lt | gt => rfl

/-- Values are totally preordered. -/
instance transCmp_order : Std.TransCmp order where
  eq_swap {a b} := by
    rw [order_eq_orderToDepth (Nat.le_add_right _ (sizeOf b)) b,
      order_eq_orderToDepth (Nat.le_add_left _ (sizeOf a)) a]
    exact Std.OrientedCmp.eq_swap
  isLE_trans {a b c} := by
    rw [order_eq_orderToDepth (Nat.le_add_right _ (sizeOf b)) b,
      order_eq_orderToDepth (Nat.le_add_left _ (sizeOf a)) c,
      order_eq_orderToDepth (Nat.le_add_right _ (sizeOf b)) c]
    exact Std.TransCmp.isLE_trans

end Value

end EntityStore
