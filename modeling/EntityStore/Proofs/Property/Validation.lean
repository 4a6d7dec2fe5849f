import EntityStore.Proofs.Failure
import EntityStore.Property.Validation

/-!
# What validation answers

Coercion to a kind ends in the values that the kind admits, and leaves those alone.  So a validated
value is valid as it is, and validating it once more changes nothing.

A property can hold a validated value, or an empty one that it has not been asked to validate.
-/

namespace EntityStore

/-- A value of a kind's type.  The items of a list have its item type, and a reference names a
record. -/
structure PropertyKind.Admits (kind : PropertyKind) (v : Value) : Prop where
  type : v.type = kind.dataType
  items : ∀ item items, kind = .list item → v = .list items → items.all item.admitsItem = true
  identified : ∀ r k, kind = .reference r → v = .key k → k.hasIdentifier = true

namespace Property

variable {p : Property} {name : String} {kind : PropertyKind} {v w : Value}

/-! ## Coercion -/

theorem coerceText_eq_ok_iff {target : String} {wrap : String → Value} :
    coerceText name target wrap v = .ok w ↔ ∃ s, v.text? = some s ∧ wrap s = w := by
  unfold coerceText
  cases v.text? <;> simp [Failure.pure_eq_ok_iff, Failure.throw_ne_ok]

theorem coerceBytes_eq_ok_iff {target : String} {wrap : List UInt8 → Value} :
    coerceBytes name target wrap v = .ok w ↔ ∃ b, v.bytes? = some b ∧ wrap b = w := by
  unfold coerceBytes
  cases v.bytes? <;> simp [Failure.pure_eq_ok_iff, Failure.throw_ne_ok]

theorem exactly_eq_ok_iff {type : ValueType} {cause : Failure} :
    exactly type cause v = .ok w ↔ v.type = type ∧ w = v := by
  rw [exactly, Failure.require_eq_ok_iff, Failure.pure_eq_ok_iff, eq_comm (a := v)]

theorem checkItems_eq_ok_iff {item : ValueType} {items items' : List Value} :
    checkItems name item items = .ok items' ↔
      items.all item.admitsItem = true ∧ items' = items := by
  rw [checkItems, Failure.require_eq_ok_iff, Failure.pure_eq_ok_iff, eq_comm (a := items)]

theorem admits_of_coerceTo (coerced : coerceTo name kind v = .ok w) : kind.Admits w := by
  cases kind with
  | string | integer | rating =>
    simp only [coerceTo] at coerced
    split at coerced
    · cases Failure.pure_eq_ok_iff.mp coerced
      exact ⟨rfl, nofun, nofun⟩
    · contradiction
  | text | category | link | email | phoneNumber | postalAddress =>
    obtain ⟨s, -, rfl⟩ := coerceText_eq_ok_iff.mp coerced
    exact ⟨rfl, nofun, nofun⟩
  | blob | byteString =>
    obtain ⟨b, -, rfl⟩ := coerceBytes_eq_ok_iff.mp coerced
    exact ⟨rfl, nofun, nofun⟩
  | float | boolean | user | dateTime | time =>
    obtain ⟨type, rfl⟩ := exactly_eq_ok_iff.mp coerced
    exact ⟨type, nofun, nofun⟩
  | date =>
    obtain ⟨type, rfl⟩ := exactly_eq_ok_iff.mp (Failure.refuse_eq_ok_iff.mp coerced).2
    exact ⟨type, nofun, nofun⟩
  | geoPoint | handle =>
    simp only [coerceTo] at coerced
    split at coerced
    · cases Failure.pure_eq_ok_iff.mp coerced
      exact ⟨rfl, nofun, nofun⟩
    · split at coerced
      · obtain ⟨_, -, rfl⟩ := Failure.map_eq_ok_iff.mp coerced
        exact ⟨rfl, nofun, nofun⟩
      · contradiction
  | list item =>
    simp only [coerceTo] at coerced
    split at coerced
    · obtain ⟨items, checked, rfl⟩ := Failure.map_eq_ok_iff.mp coerced
      obtain ⟨admitted, rfl⟩ := checkItems_eq_ok_iff.mp checked
      refine ⟨rfl, ?_, nofun⟩
      rintro item items ⟨⟩ ⟨⟩
      exact admitted
    · contradiction
  | reference r =>
    simp only [coerceTo] at coerced
    split at coerced
    · obtain ⟨identified, returned⟩ := Failure.require_eq_ok_iff.mp coerced
      cases Failure.pure_eq_ok_iff.mp returned
      refine ⟨rfl, nofun, ?_⟩
      rintro r k ⟨⟩ ⟨⟩
      exact identified
    · contradiction

theorem coerceTo_of_admits (admitted : kind.Admits v) : coerceTo name kind v = .ok v := by
  obtain ⟨type, items, identified⟩ := admitted
  cases kind <;> cases v <;> try contradiction
  case list.list item items' =>
    have checked : checkItems name item items' = .ok items' :=
      checkItems_eq_ok_iff.mpr ⟨items _ _ rfl rfl, rfl⟩
    simp only [coerceTo, checked, Except.map]
  case reference.key r k =>
    simp only [coerceTo, identified _ _ rfl rfl, ↓reduceIte]
    rfl
  all_goals rfl

/-! ## Emptiness -/

theorem isEmptyValue_null : p.isEmptyValue .null = true := by
  unfold isEmptyValue
  split <;> rfl

theorem isEmptyValue_of_text? {s : String} (single : p.kind.isList = false)
    (text : v.text? = some s) : p.isEmptyValue v = s.isEmpty := by
  simp [isEmptyValue, single, text]

theorem isEmptyValue_of_bytes? {b : List UInt8} (single : p.kind.isList = false)
    (bytes : v.bytes? = some b) : p.isEmptyValue v = b.isEmpty := by
  have noText : v.text? = none := by
    cases v <;> first | rfl | contradiction
  simp [isEmptyValue, single, noText, bytes]

/-- Coercion never makes a value empty: it keeps texts and bytes, and nothing else of a kind's type
is empty. -/
theorem isEmptyValue_of_coerceTo (coerced : coerceTo name p.kind v = .ok w)
    (empty : p.isEmptyValue w = true) : p.isEmptyValue v = true := by
  have type := (admits_of_coerceTo coerced).type
  cases kind : p.kind with
  | string =>
    have single : p.kind.isList = false := by rw [kind]; rfl
    simp only [kind, coerceTo] at coerced
    split at coerced
    case h_1 s text =>
      cases Failure.pure_eq_ok_iff.mp coerced
      rwa [isEmptyValue_of_text? single text, ← isEmptyValue_of_text? (v := .string s) single rfl]
    · contradiction
  | text | category | link | email | phoneNumber | postalAddress =>
    have single : p.kind.isList = false := by rw [kind]; rfl
    rw [kind] at coerced
    obtain ⟨s, text, rfl⟩ := coerceText_eq_ok_iff.mp coerced
    rw [isEmptyValue_of_text? single rfl] at empty
    rwa [isEmptyValue_of_text? single text]
  | blob | byteString =>
    have single : p.kind.isList = false := by rw [kind]; rfl
    rw [kind] at coerced
    obtain ⟨b, bytes, rfl⟩ := coerceBytes_eq_ok_iff.mp coerced
    rw [isEmptyValue_of_bytes? single rfl] at empty
    rwa [isEmptyValue_of_bytes? single bytes]
  | _ =>
    rw [isEmptyValue, kind] at empty
    rw [kind] at type
    cases w <;> contradiction

/-! ## Validation -/

theorem validate_eq_ok_iff_of_empty (empty : p.isEmptyValue v = true) :
    p.validate v = .ok w ↔ p.isRequired = false ∧ w = v := by
  rw [validate, if_pos empty, Failure.refuse_eq_ok_iff, Bool.not_eq_true, Failure.pure_eq_ok_iff,
    eq_comm (a := v)]

theorem validate_eq_ok_iff (present : p.isEmptyValue v = false) :
    p.validate v = .ok w ↔
      coerceTo p.storageName p.kind v = .ok w ∧ p.checkChoices w = .ok () ∧
        p.runValidator w = .ok () ∧ checkConstraints p.storageName p.kind w = .ok () := by
  simp only [validate, present, Bool.false_eq_true, ↓reduceIte, Failure.bind_eq_ok_iff,
    Failure.pure_eq_ok_iff]
  constructor
  · rintro ⟨w, coerced, ⟨⟩, chosen, ⟨⟩, valid, ⟨⟩, constrained, rfl⟩
    exact ⟨coerced, chosen, valid, constrained⟩
  · rintro ⟨coerced, chosen, valid, constrained⟩
    exact ⟨w, coerced, (), chosen, (), valid, (), constrained, rfl⟩

/-- A validated value is valid as it is. -/
theorem validate_validate (validated : p.validate v = .ok w) : p.validate w = .ok w := by
  cases empty : p.isEmptyValue v with
  | true =>
    obtain ⟨-, rfl⟩ := (validate_eq_ok_iff_of_empty empty).mp validated
    exact validated
  | false =>
    obtain ⟨coerced, checked⟩ := (validate_eq_ok_iff empty).mp validated
    have present : p.isEmptyValue w = false := by
      cases empty' : p.isEmptyValue w with
      | false => rfl
      | true =>
        rw [isEmptyValue_of_coerceTo coerced empty'] at empty
        contradiction
    exact (validate_eq_ok_iff present).mpr
      ⟨coerceTo_of_admits (admits_of_coerceTo coerced), checked⟩

/-- What an instance may hold for a property: a valid value, or an empty one, which a new instance
starts with even where a value is required. -/
def Holds (p : Property) (v : Value) : Prop :=
  p.validate v = .ok v ∨ p.isEmptyValue v = true

theorem holds_of_validate (validated : p.validate v = .ok w) : p.Holds w :=
  .inl (validate_validate validated)

/-- What is held and not empty has the type of the property. -/
theorem Holds.admits (holds : p.Holds v) (present : p.isEmptyValue v = false) :
    p.kind.Admits v := by
  rcases holds with valid | empty
  · exact admits_of_coerceTo ((validate_eq_ok_iff present).mp valid).1
  · rw [present] at empty
    contradiction

/-- Validation either keeps what is held or refuses it. -/
theorem Holds.validate_eq (holds : p.Holds v) (validated : p.validate v = .ok w) : w = v := by
  rcases holds with valid | empty
  · rw [valid] at validated
    exact (Except.ok.inj validated).symm
  · exact ((validate_eq_ok_iff_of_empty empty).mp validated).2

end Property

end EntityStore
