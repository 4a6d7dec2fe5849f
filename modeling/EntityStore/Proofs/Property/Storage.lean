import EntityStore.Proofs.Property.Validation
import EntityStore.Property.Storage

/-!
# Stored values read back

Widening loses nothing that the declared type does not restore, so a property reads what it stored
as what was held.  A missing list is stored like an empty one and is the only exception.
-/

namespace EntityStore

theorem PropertyKind.isList_eq_true_iff {kind : PropertyKind} :
    kind.isList = true ↔ ∃ item, kind = .list item := by
  cases kind <;> simp [PropertyKind.isList]

namespace Property

variable {p : Property} {v stored : Value} {moment : Moment}

/-- Whether every write replaces what an instance holds. -/
def isFilledOnWrite (p : Property) : Bool :=
  p.kind.automatic?.any (·.onWrite)

theorem currentValue_of_held (held : p.isFilledOnWrite = false) : p.currentValue v moment = v := by
  unfold isFilledOnWrite at held
  unfold currentValue
  cases automatic : p.kind.automatic? with
  | none => rfl
  | some a => simp_all

/-- The stored form of what an instance holds. -/
def storedForm (p : Property) (v : Value) : Value :=
  match p.kind with
  | .date _ | .time _ => v.widen
  | .list _ => .list ((v.list?.getD []).map Value.widen)
  | _ => v

theorem itemsForStorage_eq_ok {item : ValueType} {items : List Value}
    (checked : p.itemsForStorage item v = .ok items) :
    items = v.list?.getD [] ∧ items.all item.admitsItem = true := by
  unfold itemsForStorage at checked
  split at checked
  · cases Failure.pure_eq_ok_iff.mp checked
    exact ⟨rfl, rfl⟩
  · rcases checkItems_eq_ok_iff.mp checked with ⟨admitted, rfl⟩
    exact ⟨rfl, admitted⟩
  · contradiction

/-- What is written is the stored form of the current value. -/
theorem storedForm_currentValue (answered : p.valueForStorage v moment = .ok stored) :
    stored = p.storedForm (p.currentValue v moment) := by
  simp only [valueForStorage, Failure.guard_eq_ok_iff] at answered
  unfold storedForm
  cases kind : p.kind <;>
    simp only [kind, Failure.bind_eq_ok_iff, Failure.pure_eq_ok_iff] at answered
  case list =>
    rcases answered with ⟨-, items, checked, -, -, rfl⟩
    rw [(itemsForStorage_eq_ok checked).1]
  all_goals exact answered.2.symm

/-- What is written for a held value is its stored form. -/
theorem eq_storedForm_of_valueForStorage (held : p.isFilledOnWrite = false)
    (answered : p.valueForStorage v moment = .ok stored) : stored = p.storedForm v := by
  rw [storedForm_currentValue answered, currentValue_of_held held]

/-! ## Reading back -/

/-- An admitted item is restored from its stored form. -/
theorem narrow_widen {item : ValueType} (admitted : item.admitsItem v = true) :
    narrow item v.widen = v := by
  cases v <;> cases item <;> first | rfl | contradiction

theorem map_narrow_widen {item : ValueType} {items : List Value}
    (admitted : items.all item.admitsItem = true) :
    (items.map Value.widen).map (narrow item) = items := by
  rw [List.map_map]
  calc items.map (narrow item ∘ Value.widen)
      = items.map id := List.map_congr_left fun v member =>
        narrow_widen (List.all_eq_true.mp admitted v member)
    _ = items := List.map_id items

/-- Other properties than lists read what they stored as what was held. -/
theorem valueFromStorage_storedForm_of_single (single : p.kind.isList = false)
    (holds : p.Holds v) : p.valueFromStorage (p.storedForm v) = v := by
  have typed := holds.admits
  unfold isEmptyValue at typed
  unfold valueFromStorage storedForm
  cases kind : p.kind <;> rw [kind] at single typed
  case list => contradiction
  case date | time =>
    cases v <;> first | rfl | exact absurd (typed rfl).type nofun

/-- A list property holds a list of admitted items, or null. -/
theorem Holds.of_list {item : ValueType} (kind : p.kind = .list item) (holds : p.Holds v) :
    v = .null ∨ ∃ items, v = .list items ∧ items.all item.admitsItem = true := by
  cases empty : p.isEmptyValue v with
  | true =>
    rw [isEmptyValue, kind] at empty
    cases v <;> first | exact .inl rfl | contradiction
  | false =>
    have admitted := holds.admits empty
    have type := admitted.type
    rw [kind] at type
    cases v <;> try contradiction
    case list items => exact .inr ⟨items, rfl, admitted.items item items kind rfl⟩

theorem Holds.ne_list {items : List Value} (single : p.kind.isList = false) :
    ¬ p.Holds (.list items) := by
  intro holds
  have present : p.isEmptyValue (.list items) = false := by
    simp [isEmptyValue, single, Value.text?, Value.bytes?, Value.isNull]
  have type := (holds.admits present).type
  cases kind : p.kind <;> rw [kind] at single type <;> contradiction

/-- Only a list property stores an empty list, and only for a list without items or none at all. -/
theorem storedForm_eq_nil_iff (holds : p.Holds v) :
    p.storedForm v = .list [] ↔ p.kind.isList = true ∧ (v = .null ∨ v = .list []) := by
  cases kind : p.kind
  case list item =>
    rcases holds.of_list kind with rfl | ⟨items, rfl, -⟩ <;>
      simp [storedForm, kind, PropertyKind.isList, Value.list?]
  all_goals
    have single : p.kind.isList = false := by rw [kind]; rfl
    have readBack := valueFromStorage_storedForm_of_single single holds
    refine ⟨fun nothing => ?_, fun h => absurd h.1 nofun⟩
    rw [nothing, valueFromStorage, kind] at readBack
    exact absurd (readBack ▸ holds) (Holds.ne_list single)

/-- What leaves a field reads back as what was held. -/
theorem valueFromStorage_storedForm (holds : p.Holds v) (written : p.storedForm v ≠ .list []) :
    p.valueFromStorage (p.storedForm v) = v := by
  cases kind : p.kind
  case list item =>
    rcases holds.of_list kind with rfl | ⟨items, rfl, admitted⟩
    · rw [Ne, storedForm_eq_nil_iff holds, kind] at written
      exact absurd ⟨rfl, .inl rfl⟩ written
    · simp only [storedForm, valueFromStorage, kind, Value.list?, Option.getD_some,
        map_narrow_widen admitted]
  all_goals
    exact valueFromStorage_storedForm_of_single (by rw [kind]; rfl) holds

/-! ## Missing fields -/

/-- Whether a property declares no items to start with. -/
def StartsEmpty (p : Property) : Prop :=
  ∀ v, p.default = some v → v = .null ∨ v = .list []

theorem valueFromStorage_ne_null {item : ValueType} (kind : p.kind = .list item) :
    p.valueFromStorage stored ≠ .null := by
  unfold valueFromStorage
  rw [kind]
  cases stored <;> nofun

/-- A list that is missing from a record reads as empty just when no items are declared for it. -/
theorem valueFromStorage_defaultValue_eq_nil_iff {item : ValueType} (kind : p.kind = .list item) :
    p.valueFromStorage (p.defaultValue moment) = .list [] ↔ p.StartsEmpty := by
  unfold valueFromStorage defaultValue StartsEmpty
  rw [kind]
  cases p.default with
  | none => simp
  | some v => cases v <;> simp

end Property

end EntityStore
