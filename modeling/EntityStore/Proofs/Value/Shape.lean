import EntityStore.Model.Dynamic
import EntityStore.Proofs.Value.Document

/-!
# Values inside values

Only lists contain other values.  A record may hold values without dates and times of day and
without lists that are empty or lie in other lists; every value that a dynamic property may hold is
of this shape.  A dynamic value is too long for an index exactly when a text or a blob lies in it.
-/

namespace EntityStore.Value

/-- A value lies in itself, and in a list if it lies in one of the items. -/
inductive Within (w : Value) : Value → Prop where
  | self : Within w w
  | item {v : Value} {items : List Value} (member : v ∈ items) (inside : Within w v) :
      Within w (.list items)

variable {v w : Value} {items : List Value} {name : String}

theorem within_of_scalar (scalar : ∀ items, v ≠ .list items) : w.Within v ↔ w = v := by
  constructor
  · intro inside
    cases inside with
    | self => rfl
    | item => exact absurd rfl (scalar _)
  · rintro rfl
    exact .self

theorem within_list : w.Within (.list items) ↔ w = .list items ∨ ∃ v ∈ items, w.Within v := by
  constructor
  · intro inside
    cases inside with
    | self => exact .inl rfl
    | item member inside => exact .inr ⟨_, member, inside⟩
  · rintro (rfl | ⟨v, member, inside⟩)
    · exact .self
    · exact .item member inside

/-! ## Long values -/

theorem anyLong_eq_any (items : List Value) : anyLong items = items.any isLong := by
  induction items with
  | nil => rfl
  | cons v rest inductionHypothesis => rw [anyLong, inductionHypothesis, List.any_cons]

/-- Exactly the values that a text or a blob lies in are long. -/
theorem isLong_iff :
    v.isLong = true ↔ ∃ w : Value, w.Within v ∧ (w.type = .text ∨ w.type = .blob) := by
  induction v using induction_on_items with
  | scalar v scalar =>
      simp only [within_of_scalar scalar, exists_eq_left]
      cases v <;> first | exact absurd rfl (scalar _) | simp [isLong, type]
  | list items inductionHypothesis =>
      have ofItems : ∀ item ∈ items, item.isLong = true ↔
          ∃ w : Value, w.Within item ∧ (w.type = .text ∨ w.type = .blob) := inductionHypothesis
      rw [isLong, anyLong_eq_any, List.any_eq_true]
      constructor
      · rintro ⟨item, member, long⟩
        rcases (ofItems item member).mp long with ⟨w, inside, typed⟩
        exact ⟨w, .item member inside, typed⟩
      · rintro ⟨w, inside, typed⟩
        rcases within_list.mp inside with rfl | ⟨item, member, inside⟩
        · rcases typed with typed | typed <;> contradiction
        · exact ⟨item, member, (ofItems item member).mpr ⟨w, inside, typed⟩⟩

/-! ## What a record may hold -/

/-- Whether a record may hold a value in a field: there are no dates and no times of day in it, and
no lists that are empty or have lists for items. -/
structure Storable (v : Value) : Prop where
  timeless : ∀ w : Value, w.Within v → w.type ≠ .date ∧ w.type ≠ .time
  filled : ∀ w : Value, w.Within v → w ≠ .list []
  flat : ∀ items, (Value.list items).Within v → ∀ item ∈ items, item.type ≠ .list

/-- Whether a value is no list, no date and no time of day. -/
structure IsPlain (v : Value) : Prop where
  single : v.type ≠ .list
  timeless : v.type ≠ .date ∧ v.type ≠ .time

theorem isPlain_iff : v.IsPlain ↔ v.type ≠ .list ∧ v.type ≠ .date ∧ v.type ≠ .time :=
  ⟨fun plain => ⟨plain.single, plain.timeless⟩, fun ⟨single, timeless⟩ => ⟨single, timeless⟩⟩

theorem IsPlain.ne_list (plain : v.IsPlain) : v ≠ .list items := by
  rintro rfl
  exact plain.single rfl

theorem IsPlain.storable (plain : v.IsPlain) : v.Storable := by
  have only : ∀ w : Value, w.Within v → w = v :=
    fun w => (within_of_scalar fun _ => plain.ne_list).mp
  constructor
  · intro w inside
    rw [only w inside]
    exact plain.timeless
  · intro w inside
    rw [only w inside]
    exact plain.ne_list
  · intro items inside
    exact absurd (only _ inside).symm plain.ne_list

theorem storable_list (filled : items ≠ []) (plain : ∀ item ∈ items, item.IsPlain) :
    (Value.list items).Storable := by
  constructor
  · intro w inside
    rcases within_list.mp inside with rfl | ⟨item, member, inside⟩
    · simp [type]
    · exact (plain item member).storable.timeless w inside
  · intro w inside
    rcases within_list.mp inside with rfl | ⟨item, member, inside⟩
    · simpa using filled
    · exact (plain item member).storable.filled w inside
  · intro items' inside
    rcases within_list.mp inside with same | ⟨item, member, inside⟩
    · cases same
      exact fun item member => (plain item member).single
    · exact (plain item member).storable.flat items' inside

theorem isPlain_of_checkDynamic (single : v.type ≠ .list) (checked : checkDynamic name v = .ok ()) :
    v.IsPlain := by
  cases v <;> first | contradiction | simp [isPlain_iff, type]

theorem isPlain_of_checkDynamicItems (checked : checkDynamicItems name items = .ok ()) :
    ∀ item ∈ items, item.IsPlain := by
  induction items with
  | nil => exact fun item member => absurd member List.not_mem_nil
  | cons first rest inductionHypothesis =>
      simp only [checkDynamicItems, Failure.guard_eq_ok_iff, Failure.bind_eq_ok_iff] at checked
      rcases checked with ⟨allowed, ⟨⟩, ofFirst, ofRest⟩
      rw [List.forall_mem_cons]
      constructor
      · exact isPlain_of_checkDynamic (fun nested => allowed (.inl nested)) ofFirst
      · exact inductionHypothesis ofRest

/-- What passes the check of dynamic values and is no empty list may stand in a record. -/
theorem storable_of_checkDynamic (filled : v ≠ .list []) (checked : checkDynamic name v = .ok ()) :
    v.Storable := by
  by_cases nested : v.type = .list
  · cases v <;> try contradiction
    case list items =>
      rw [checkDynamic] at checked
      exact storable_list (by simpa using filled) (isPlain_of_checkDynamicItems checked)
  · exact (isPlain_of_checkDynamic nested checked).storable

end EntityStore.Value
