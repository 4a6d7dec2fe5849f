import EntityStore.Proofs.Property.Codec
import EntityStore.Proofs.Value.Shape

/-!
# The shape of what a property stores

Whatever a bound property may hold, or is filled with on the write, what it stores is an empty list
or may stand in a record.
-/

namespace EntityStore.Property

variable {p p₀ : Property} {v stored : Value} {moment : Moment} {owner attr : String}

/-- Whether a value is plain or has the type of a property. -/
def Suits (p : Property) (v : Value) : Prop :=
  v.IsPlain ∨ v.type = p.kind.dataType

theorem Holds.suits (single : p.kind.isList = false) (holds : p.Holds v) : p.Suits v := by
  cases empty : p.isEmptyValue v with
  | false => exact .inr (holds.admits empty).type
  | true =>
      left
      rw [isEmptyValue, single] at empty
      cases v <;> first | contradiction | simp [Value.isPlain_iff, Value.type]

/-- A date or a time of day is stored at a moment, which is plain. -/
theorem isPlain_widen (single : v.type ≠ .list) : v.widen.IsPlain := by
  cases v <;> first | contradiction | simp [Value.isPlain_iff, Value.widen, Value.type]

theorem suits_currentValue (suits : p.Suits v) (moment : Moment) :
    p.Suits (p.currentValue v moment) := by
  unfold currentValue
  split
  next automatic filled =>
    split
    · unfold Suits automaticValue
      cases kind : p.kind <;> rw [kind] at filled <;> try contradiction
      case user =>
        cases moment.user with
        | none => exact .inl (by simp [Value.isPlain_iff, Value.type])
        | some user => exact .inr rfl
      all_goals exact .inr rfl
    · exact suits
  · exact suits

theorem Suits.isPlain_storedForm (single : p.kind.isList = false) (suits : p.Suits v) :
    (p.storedForm v).IsPlain := by
  unfold storedForm
  unfold Suits at suits
  cases kind : p.kind <;> rw [kind] at single suits
  case list => contradiction
  case date | time =>
    rcases suits with plain | typed
    · exact isPlain_widen plain.single
    · exact isPlain_widen (by simp [typed, PropertyKind.dataType])
  all_goals
    rcases suits with plain | typed
    · exact plain
    · simp [Value.isPlain_iff, typed, PropertyKind.dataType]

/-- What a property stores of what it holds, or is filled with, may stand in a record if it is no
empty list. -/
theorem storable_of_valueForStorage (bound : p₀.bind owner attr = .ok p) (holds : p.Holds v)
    (answered : p.valueForStorage v moment = .ok stored) (filled : stored ≠ .list []) :
    stored.Storable := by
  cases isList : p.kind.isList with
  | false =>
      rw [storedForm_currentValue answered]
      exact ((suits_currentValue (holds.suits isList) moment).isPlain_storedForm isList).storable
  | true =>
      rcases PropertyKind.isList_eq_true_iff.mp isList with ⟨item, kind⟩
      simp only [valueForStorage, kind, Failure.guard_eq_ok_iff, Failure.bind_eq_ok_iff,
        Failure.pure_eq_ok_iff] at answered
      rcases answered with ⟨-, items, checked, -, -, rfl⟩
      have admitted := List.all_eq_true.mp (itemsForStorage_eq_ok checked).2
      apply Value.storable_list (by simpa using filled)
      intro stored member
      rcases List.mem_map.mp member with ⟨v, inside, rfl⟩
      exact isPlain_widen
        (type_ne_list_of_admitsItem (item_ne_list_of_bind bound kind) (admitted v inside))

end EntityStore.Property
