import EntityStore.Proofs.Order.Value

/-!
# One reading decides each comparison

The order runs through every reading that a family may have.  A pair of values of one family shares
exactly one of them, so the order also follows a plan that looks at the pair first: two values of
one type by their contents, two lists by the first items that differ and then by length, and any
other pair by the first reading that both values have.  Both plans give the same total preorder.
-/

namespace EntityStore

/-- The outcome of the first comparison that is decided, if any is. -/
def firstDecided : List Ordering → Option Ordering
  | [] => none
  | .eq :: rest => firstDecided rest
  | decided :: _ => some decided

namespace Value

/-- The order of two values by the first reading that both have; values that share no reading are
not told apart. -/
def orderByReading (a b : Value) : Ordering :=
  match a.integer?, b.integer? with
  | some m, some n => compare m n
  | _, _ =>
    match a.dateTime?, b.dateTime? with
    | some s, some t => compare s t
    | _, _ =>
      match a.bytes?, b.bytes? with
      | some p, some q => compare p q
      | _, _ =>
        match a.sortText?, b.sortText? with
        | some s, some t => compare s t
        | _, _ => .eq

/-- The order of two values of one family that looks at their types first. -/
def orderByType : Value → Value → Ordering
  | .boolean a, .boolean b => compare a b
  | .float a, .float b => compare a b
  | .geoPoint a, .geoPoint b =>
    (compare a.latitude b.latitude).then (compare a.longitude b.longitude)
  | .user a, .user b => compare a b
  | .key a, .key b => compare a b
  | .list a, .list b =>
    (firstDecided ((a.zip b).map fun pair => order pair.1 pair.2)).getD
      (compare a.length b.length)
  | a, b => orderByReading a b

/-- Lists are ordered by the first items that differ, and by length when no items do. -/
theorem orderItems_eq_firstDecided (as bs : List Value) :
    orderItems as bs =
      (firstDecided ((as.zip bs).map fun pair => order pair.1 pair.2)).getD
        (compare as.length bs.length) := by
  induction as generalizing bs with
  | nil =>
      cases bs with
      | nil => rfl
      | cons b bs =>
          have shorter : compare 0 (bs.length + 1) = .lt :=
            Nat.compare_eq_lt.mpr (Nat.succ_pos _)
          simp [orderItems, firstDecided, shorter]
  | cons a as inductionHypothesis =>
      cases bs with
      | nil =>
          have longer : compare (as.length + 1) 0 = .gt :=
            Nat.compare_eq_gt.mpr (Nat.succ_pos _)
          simp [orderItems, firstDecided, longer]
      | cons b bs =>
          have lengths : compare (as.length + 1) (bs.length + 1) =
              compare as.length bs.length := by
            simp only [Nat.compare_eq_ite_lt, Nat.add_lt_add_iff_right]
          rw [orderItems, inductionHypothesis]
          cases decided : order a b with
          | eq => simp [firstDecided, decided, lengths]
          | lt | gt => simp [firstDecided, decided]

/-- Within a family the pair's own types decide: every other reading is missing on both sides. -/
theorem orderWithin_eq_orderByType {a b : Value} (same : a.family = b.family)
    (notList : a.family ≠ 10) : orderWithin a b = orderByType a b := by
  cases a <;> cases b <;> simp [family] at same notList
  all_goals
    simp [orderWithin, orderByType, orderByReading, compareLex, compareOn, integer?, dateTime?,
      boolean?, bytes?, sortText?, text?, float?, geoPoint?, user?, key?]
  all_goals rfl

/-- Values are ordered by their families, and within a family by what their types share. -/
theorem order_eq_orderByType (a b : Value) :
    order a b = (compare a.family b.family).then (orderByType a b) := by
  by_cases bothLists : a.family = 10 ∧ b.family = 10
  · rcases exists_eq_list bothLists.1 with ⟨as, rfl⟩
    rcases exists_eq_list bothLists.2 with ⟨bs, rfl⟩
    exact orderItems_eq_firstDecided as bs
  · rw [order_eq_orderScalar bothLists]
    by_cases same : a.family = b.family
    · have notList : a.family ≠ 10 := fun isList => bothLists ⟨isList, same ▸ isList⟩
      rw [← orderWithin_eq_orderByType same notList]
      rfl
    · cases decided : compare a.family b.family with
      | eq => exact absurd (Std.LawfulEqOrd.eq_of_compare decided) same
      | lt | gt => simp [orderScalar, compareLex, compareOn, decided]

/-- Values of different families are ordered as their families are. -/
theorem order_of_family_ne {a b : Value} (different : a.family ≠ b.family) :
    order a b = compare a.family b.family := by
  rw [order_eq_orderByType]
  cases decided : compare a.family b.family with
  | eq => exact absurd (Std.LawfulEqOrd.eq_of_compare decided) different
  | lt | gt => rfl

/-- The order of values is a total preorder that never identifies values of different families, and
values that it does identify stand alike to every other value. -/
theorem order_total_preorder (a b c : Value) :
    order a a = .eq ∧
      order b a = (order a b).swap ∧
      ((order a b).isLE → (order b c).isLE → (order a c).isLE) ∧
      (a.sameFamily b = false → order a b ≠ .eq) ∧
      (order a b = .eq → order a c = order b c ∧ order c a = order c b) := by
  refine ⟨Std.ReflCmp.compare_self, Std.OrientedCmp.eq_swap, Std.TransCmp.isLE_trans, ?_, ?_⟩
  · intro different equal
    have families : a.family ≠ b.family := by simpa [sameFamily] using different
    rw [order_of_family_ne families] at equal
    exact families (Std.LawfulEqOrd.eq_of_compare equal)
  · intro equal
    constructor
    · exact Std.TransCmp.congr_left equal
    · exact Std.TransCmp.congr_right equal

/-- A negative zero comes before a positive one, and the first items that differ outweigh length. -/
example :
    order (.list [.float ⟨0x8000000000000000⟩, .null]) (.list [.float ⟨0⟩]) = .lt := by
  decide

end Value

end EntityStore
