import EntityStore.Proofs.Property.Validation

/-!
# Validated values conform

A value that is not empty comes out of validation with the property's type and within its
constraints.  An empty one comes out as it went in, so it has the type only if it had it before.
-/

namespace EntityStore

/-- A value of a kind's type that meets everything that the kind asks for. -/
structure PropertyKind.Conforms (kind : PropertyKind) (v : Value) : Prop extends kind.Admits v where
  oneLine : kind = .string false → ∀ s, v = .string s → '\n' ∉ s.toList
  shortText : ∀ multiline s, kind = .string multiline → v = .string s →
    s.utf8ByteSize ≤ maxIndexedBytes
  shortBytes : kind = .byteString → ∀ b, v = .byteString b → b.length ≤ maxIndexedBytes
  fullUrl : kind = .link → ∀ s, v = .link s → Url.isFull s = true
  inRange : kind = .rating → ∀ i, v = .rating i → 0 ≤ i ∧ i ≤ 100

namespace Property

variable {p : Property} {name : String} {kind : PropertyKind} {v w : Value}

theorem checkLength_eq_ok_iff {length : Nat} :
    checkLength name length = .ok () ↔ length ≤ maxIndexedBytes := by
  rw [checkLength, Failure.refuse_eq_ok_iff, Failure.pure_eq_ok_iff, Nat.not_lt]
  simp

/-- The constraints are what a kind asks for beyond its type. -/
theorem conforms_of_checkConstraints (admitted : kind.Admits w)
    (constrained : checkConstraints name kind w = .ok ()) : kind.Conforms w := by
  refine { admitted with
    oneLine := ?_, shortText := ?_, shortBytes := ?_, fullUrl := ?_, inRange := ?_ }
  · rintro rfl s rfl
    have oneLine := (Failure.refuse_eq_ok_iff.mp constrained).1
    simpa using oneLine
  · rintro multiline s rfl rfl
    exact checkLength_eq_ok_iff.mp (Failure.refuse_eq_ok_iff.mp constrained).2
  · rintro rfl b rfl
    exact checkLength_eq_ok_iff.mp constrained
  · rintro rfl s rfl
    exact (Failure.require_eq_ok_iff.mp constrained).1
  · rintro rfl i rfl
    exact (Failure.require_eq_ok_iff.mp constrained).1

/-- An empty value of the property's own type breaks no constraint but that of links. -/
theorem conforms_of_isEmptyValue (empty : p.isEmptyValue v = true) (typed : v.type = p.dataType)
    (notLink : p.kind ≠ .link) : p.kind.Conforms v := by
  rw [dataType] at typed
  unfold isEmptyValue at empty
  cases kind : p.kind <;> rw [kind] at empty typed notLink <;> cases v <;> try contradiction
  case string.string multiline s =>
    obtain rfl : s = "" := by simpa [PropertyKind.isList, Value.text?] using empty
    exact ⟨⟨rfl, nofun, nofun⟩, by rintro - s ⟨⟩; simp, by rintro multiline s - ⟨⟩; decide, nofun,
      nofun, nofun⟩
  case byteString.byteString b =>
    obtain rfl : b = [] := by simpa [PropertyKind.isList, Value.text?, Value.bytes?] using empty
    exact ⟨⟨rfl, nofun, nofun⟩, nofun, nofun, by rintro - b ⟨⟩; decide, nofun, nofun⟩
  all_goals exact ⟨⟨rfl, nofun, nofun⟩, nofun, nofun, nofun, nofun, nofun⟩

/-- What validation answers for a value that is not empty conforms to the property's kind. -/
theorem conforms_of_validate (present : p.isEmptyValue v = false)
    (validated : p.validate v = .ok w) : p.kind.Conforms w := by
  obtain ⟨coerced, -, -, constrained⟩ := (validate_eq_ok_iff present).mp validated
  exact conforms_of_checkConstraints (admits_of_coerceTo coerced) constrained

/-- What validation answers is null, which it is only where nothing is required, or conforms to the
property's kind, unless the value was an empty one of another type or an empty link.  Such a value
is answered as it is. -/
theorem conforms_iff_of_validate (validated : p.validate v = .ok w) :
    (p.isEmptyValue v = true → w = v ∧ p.isRequired = false) ∧
      ((w = .null ∧ p.isRequired = false ∨ p.kind.Conforms w) ↔
        (p.isEmptyValue v = true → v = .null ∨ v.type = p.dataType ∧ p.kind ≠ .link)) := by
  cases empty : p.isEmptyValue v with
  | false => simp [conforms_of_validate empty validated]
  | true =>
    obtain ⟨optional, rfl⟩ := (validate_eq_ok_iff_of_empty empty).mp validated
    refine ⟨fun _ => ⟨rfl, optional⟩, fun sound _ => ?_, fun allowed => ?_⟩
    · rcases sound with ⟨absent, -⟩ | conforms
      · exact .inl absent
      · refine .inr ⟨conforms.type, fun link => ?_⟩
        have type := conforms.type
        rw [link] at type
        cases w <;> try contradiction
        case link s =>
          obtain rfl : s = "" := by
            simpa [isEmptyValue, link, PropertyKind.isList, Value.text?] using empty
          exact absurd (conforms.fullUrl link "" rfl) (by decide)
    · rcases allowed rfl with rfl | ⟨typed, notLink⟩
      · exact .inl ⟨rfl, optional⟩
      · exact .inr (conforms_of_isEmptyValue empty typed notLink)

theorem conforms_title : ∃ p, ({ kind := .string false } : Property).bind "Story" "title" = .ok p ∧
    p.validate (.text "One") = .ok (.string "One") ∧ p.kind.Conforms (.string "One") := by
  refine ⟨_, rfl, rfl, ?_⟩
  rcases (conforms_iff_of_validate (p := { kind := .string false }) (v := .text "One") rfl).2.mpr
    (fun empty => absurd empty (by decide)) with ⟨absent, -⟩ | conforms
  · contradiction
  · exact conforms

/-- An integer property takes an empty text for a value. -/
theorem rank_takes_text : ∃ p, ({ kind := .integer } : Property).bind "Story" "rank" = .ok p ∧
    p.validate (.string "") = .ok (.string "") ∧
      ¬ (Value.string "" = .null ∧ p.isRequired = false ∨ p.kind.Conforms (.string "")) := by
  refine ⟨_, rfl, rfl, ?_⟩
  rintro (⟨absent, -⟩ | conforms)
  · contradiction
  · exact absurd conforms.type (by decide)

end Property

end EntityStore
