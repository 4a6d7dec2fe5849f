import EntityStore.Key.Build
import EntityStore.Proofs.Failure

/-!
# Keys that were built

A built key has the kind and the identifier that it was built from.
-/

namespace EntityStore.Key

variable {parent : Option Key} {kind : String} {id : Identifier} {key : Key}

theorem incomplete_eq_ok (answered : incomplete parent kind = .ok key) :
    ∃ above, key = ⟨above ++ [⟨kind, none⟩]⟩ := by
  simp only [incomplete, Failure.guard_eq_ok_iff] at answered
  obtain ⟨-, answered⟩ := answered
  cases parent with
  | none => exact ⟨[], (Failure.pure_eq_ok_iff.mp answered).symm⟩
  | some parent =>
    obtain ⟨-, returned⟩ := Failure.require_eq_ok_iff.mp answered
    exact ⟨parent.path, (Failure.pure_eq_ok_iff.mp returned).symm⟩

theorem build_eq_ok (answered : build parent kind id = .ok key) :
    ∃ above, key = ⟨above ++ [⟨kind, some id⟩]⟩ := by
  simp only [build, Failure.bind_eq_ok_iff, Failure.pure_eq_ok_iff] at answered
  obtain ⟨-, -, opened, made, rfl⟩ := answered
  obtain ⟨above, rfl⟩ := incomplete_eq_ok made
  exact ⟨above, by simp⟩

theorem kind_of_incomplete (answered : incomplete parent kind = .ok key) : key.kind = kind := by
  obtain ⟨above, rfl⟩ := incomplete_eq_ok answered
  simp [Key.kind]

theorem kind_of_build (answered : build parent kind id = .ok key) : key.kind = kind := by
  obtain ⟨above, rfl⟩ := build_eq_ok answered
  simp [Key.kind]

theorem id?_of_build (answered : build parent kind id = .ok key) : key.id? = some id := by
  obtain ⟨above, rfl⟩ := build_eq_ok answered
  simp [Key.id?]

/-- A name makes a key under a complete parent, or under none. -/
theorem exists_build {name : String} (kindNamed : kind ≠ "") (named : name ≠ "")
    (complete : ∀ above, parent = some above → above.isComplete = true) :
    ∃ key, build parent kind (.name name) = .ok key ∧ key.parent? = parent := by
  have kindGiven : kind.isEmpty = false := by simpa using kindNamed
  have nameGiven : name.isEmpty = false := by simpa using named
  cases parent with
  | none =>
    refine ⟨⟨[⟨kind, some (.name name)⟩]⟩, ?_, rfl⟩
    simp [build, incomplete, checkIdentifier, kindGiven, nameGiven, Failure.pure_eq_ok_iff]
  | some above =>
    have completed := complete above rfl
    refine ⟨⟨above.path ++ [⟨kind, some (.name name)⟩]⟩, ?_, ?_⟩
    · simp [build, incomplete, checkIdentifier, kindGiven, nameGiven, completed,
        Failure.pure_eq_ok_iff]
    · have nonempty : above.path ≠ [] := by
        intro empty
        simp [isComplete, empty] at completed
      have counted : 1 ≤ above.path.length := List.length_pos_iff.mpr nonempty
      rw [parent?, List.length_append, List.length_singleton, if_neg (by omega),
        List.dropLast_concat]

end EntityStore.Key
