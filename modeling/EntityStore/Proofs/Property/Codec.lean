import EntityStore.Proofs.Property.Storage

/-!
# Validated values in records

A bound property stores every value that it has validated, without a date or a time of day anywhere
in it, and reads the stored form as the same value.
-/

namespace EntityStore

namespace Value

mutual

/-- Whether a record may hold a value: there is no date and no time of day at any depth of it. -/
def isStorable : Value → Bool
  | .date _ | .time _ => false
  | .list items => areStorable items
  | _ => true

/-- Whether a record may hold each of some values. -/
def areStorable : List Value → Bool
  | [] => true
  | v :: vs => isStorable v && areStorable vs

end

theorem areStorable_eq_true_iff {items : List Value} :
    areStorable items = true ↔ ∀ v ∈ items, v.isStorable = true := by
  induction items with
  | nil => simp [areStorable]
  | cons v vs ih => simp [areStorable, ih]

/-- Widening one value is enough where nothing lies inside it. -/
theorem isStorable_widen {v : Value} (scalar : v.type ≠ .list) : v.widen.isStorable = true := by
  cases v <;> first | rfl | contradiction

end Value

namespace Property

variable {p p₀ : Property} {v w : Value} {moment : Moment} {owner attr : String}

/-- No bound property is a list of lists. -/
theorem item_ne_list_of_bind {item : ValueType} (bound : p₀.bind owner attr = .ok p)
    (kind : p.kind = .list item) : item ≠ .list := by
  unfold bind at bound
  split at bound
  · contradiction
  · obtain ⟨⟨⟩, checked, returned⟩ := Failure.exists_of_bind_eq_ok bound
    cases Failure.pure_eq_ok_iff.mp returned
    dsimp only at kind
    split at kind
    · contradiction
    · simp only [checkOptions, kind, Failure.guard_eq_ok_iff] at checked
      exact fun nested => checked.1 (.inl nested)

theorem type_ne_list_of_admitsItem {item : ValueType} (scalar : item ≠ .list)
    (admitted : item.admitsItem v = true) : v.type ≠ .list := by
  cases v <;> cases item <;> first | contradiction | nofun

/-- What a property stores of a value that it holds may stand in a record. -/
theorem isStorable_storedForm (bound : p₀.bind owner attr = .ok p) (holds : p.Holds v) :
    (p.storedForm v).isStorable = true := by
  have typed := holds.admits
  unfold isEmptyValue at typed
  unfold storedForm
  cases kind : p.kind <;> rw [kind] at typed
  case list item =>
    rcases holds.of_list kind with rfl | ⟨items, rfl, admitted⟩
    · rfl
    · rw [Value.list?, Option.getD_some, Value.isStorable, Value.areStorable_eq_true_iff]
      intro stored member
      obtain ⟨v, inside, rfl⟩ := List.mem_map.mp member
      exact Value.isStorable_widen (type_ne_list_of_admitsItem (item_ne_list_of_bind bound kind)
        (List.all_eq_true.mp admitted v inside))
  all_goals
    cases v <;> first | rfl | cases (typed rfl).type

/-- Storing a value that is valid as it is does not fail. -/
theorem valueForStorage_eq_ok (held : p.isFilledOnWrite = false) (valid : p.validate v = .ok v) :
    p.valueForStorage v moment = .ok (p.storedForm v) := by
  have allowed : ¬ (!p.kind.isList && p.isRequired && p.isEmptyValue v) = true := by
    cases empty : p.isEmptyValue v with
    | false => simp
    | true => simp [((validate_eq_ok_iff_of_empty empty).mp valid).1]
  simp only [valueForStorage, currentValue_of_held held, Failure.guard_eq_ok_iff]
  refine ⟨allowed, ?_⟩
  unfold storedForm
  cases kind : p.kind
  case list item =>
    have present : p.isEmptyValue v = false := by
      cases empty : p.isEmptyValue v with
      | false => rfl
      | true =>
        have optional := ((validate_eq_ok_iff_of_empty empty).mp valid).1
        simp [isRequired, kind, PropertyKind.isList] at optional
    obtain ⟨-, -, accepted, -⟩ := (validate_eq_ok_iff present).mp valid
    rcases (holds_of_validate valid).of_list kind with rfl | ⟨items, rfl, admitted⟩
    · rw [isEmptyValue_null] at present
      contradiction
    · simp only [itemsForStorage, checkItems_eq_ok_iff.mpr ⟨admitted, rfl⟩, Failure.bind_eq_ok_iff]
      exact ⟨items, rfl, (), accepted, rfl⟩
  all_goals rfl

/-- A list property reads an empty list as one. -/
theorem valueFromStorage_storedForm_of_validate (valid : p.validate v = .ok v) :
    p.valueFromStorage (p.storedForm v) = v := by
  have holds := holds_of_validate valid
  by_cases nothing : p.storedForm v = .list []
  · obtain ⟨list, rfl | rfl⟩ := (storedForm_eq_nil_iff holds).mp nothing
    · have optional := ((validate_eq_ok_iff_of_empty isEmptyValue_null).mp valid).1
      simp [isRequired, list] at optional
    · obtain ⟨item, kind⟩ := PropertyKind.isList_eq_true_iff.mp list
      simp [nothing, valueFromStorage, kind]
  · exact valueFromStorage_storedForm holds nothing

/-- What a bound property has validated is valid as it is, and whoever is signed in when it is
stored, it is stored in a form that a record may hold and that reads as the same value. -/
theorem restored_of_validate (bound : p₀.bind owner attr = .ok p)
    (held : p.isFilledOnWrite = false) (validated : p.validate v = .ok w) :
    p.validate w = .ok w ∧ ∀ moment, ∃ stored, p.valueForStorage w moment = .ok stored ∧
      stored.isStorable = true ∧ p.valueFromStorage stored = w := by
  have valid := validate_validate validated
  exact ⟨valid, fun moment => ⟨p.storedForm w, valueForStorage_eq_ok held valid,
    isStorable_storedForm bound (.inl valid), valueFromStorage_storedForm_of_validate valid⟩⟩

/-- The last nanosecond of a day, and the start of a leap second after it. -/
def oddTimes : Value :=
  .list [.time ⟨23, 59, 59, 999999999, by decide⟩, .time ⟨23, 59, 59, 1000000000, by decide⟩]

theorem restored_oddTimes :
    ∃ p, ({ kind := .list .time } : Property).bind "Shift" "ends" = .ok p ∧
      p.isFilledOnWrite = false ∧ p.validate oddTimes = .ok oddTimes ∧
      ∃ stored, p.valueForStorage oddTimes ⟨⟨.epoch, .midnight⟩, none⟩ = .ok stored ∧
        stored.isStorable = true ∧ p.valueFromStorage stored = oddTimes := by
  refine ⟨_, rfl, rfl, rfl, ?_⟩
  exact (@restored_of_validate _ { kind := .list .time } oddTimes _ "Shift" "ends" rfl rfl rfl).2 _

end Property

end EntityStore
