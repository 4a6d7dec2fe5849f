import EntityStore.Key.Build
import EntityStore.Proofs.Failure
import Mathlib.Data.List.Induction

/-!
# Keys above other keys

A key stands above another when climbing from parent to parent leads from the other to it.  Then its
path is an initial part of the other path, and a shorter one.  So it comes before the other in the
order of keys, but not everything that comes after it lies below it.
-/

namespace EntityStore.Key

variable {k other : Key}

/-- Whether climbing to the parent, once or several times, leads from a key to another one. -/
inductive Above (k : Key) : Key → Prop where
  | parent {other : Key} (up : other.parent? = some k) : Above k other
  | climb {middle other : Key} (above : Above k middle) (up : other.parent? = some middle) :
      Above k other

/-- A key has one element more than its parent, which has at least one. -/
theorem parent?_eq_some_iff :
    other.parent? = some k ↔ k.path ≠ [] ∧ ∃ last, other.path = k.path ++ [last] := by
  constructor
  · intro up
    unfold parent? at up
    split at up
    · contradiction
    · rename_i several
      cases up
      have filled : other.path ≠ [] := List.ne_nil_of_length_pos (by omega)
      refine ⟨List.ne_nil_of_length_pos ?_, _, (List.dropLast_concat_getLast filled).symm⟩
      rw [List.length_dropLast]
      omega
  · rintro ⟨nonempty, last, path⟩
    have counted : 1 ≤ k.path.length := List.length_pos_iff.mpr nonempty
    rw [parent?, path, List.length_append, List.length_singleton, if_neg (by omega),
      List.dropLast_concat]

/-- A key stands above another one just when the other path goes on where its own ends. -/
theorem above_iff :
    k.Above other ↔ k.path ≠ [] ∧ ∃ below, below ≠ [] ∧ other.path = k.path ++ below := by
  constructor
  · intro above
    induction above with
    | parent up =>
        rcases parent?_eq_some_iff.mp up with ⟨nonempty, last, path⟩
        exact ⟨nonempty, [last], List.cons_ne_nil _ _, path⟩
    | climb _ up inductionHypothesis =>
        rcases inductionHypothesis with ⟨nonempty, below, _, middlePath⟩
        rcases parent?_eq_some_iff.mp up with ⟨-, last, path⟩
        refine ⟨nonempty, below ++ [last], by simp, ?_⟩
        rw [path, middlePath, List.append_assoc]
  · rintro ⟨nonempty, below, proper, path⟩
    induction below using List.reverseRecOn generalizing other with
    | nil => contradiction
    | append_singleton rest last inductionHypothesis =>
        rw [← List.append_assoc] at path
        have up : other.parent? = some ⟨k.path ++ rest⟩ :=
          parent?_eq_some_iff.mpr ⟨by simp [nonempty], last, path⟩
        by_cases direct : rest = []
        · rw [direct, List.append_nil] at up
          exact .parent up
        · exact .climb (inductionHypothesis direct rfl) up

/-- What stands above comes before. -/
theorem Above.compare_eq_lt (above : k.Above other) : compare k other = .lt := by
  rcases above_iff.mp above with ⟨-, below, proper, path⟩
  have extends_lt : ∀ own : List PathElement, compare own (own ++ below) = .lt := by
    intro own
    induction own with
    | nil =>
        cases below with
        | nil => contradiction
        | cons first rest => exact List.compare_nil_cons
    | cons first rest inductionHypothesis =>
        rw [List.cons_append, List.compare_cons_cons, Std.compare_self]
        exact inductionHypothesis
  calc compare k other
      = compare k.path (k.path ++ below) := congrArg (compare k.path) path
    _ = .lt := extends_lt k.path

/-- Of what lies at or below a key, the keys below it are those that come after it. -/
theorem above_iff_compare (nonempty : k.path ≠ []) :
    k.Above other ↔ k.isAncestorOf other = true ∧ compare other k = .gt := by
  constructor
  · intro above
    rcases above_iff.mp above with ⟨-, below, -, path⟩
    constructor
    · exact isAncestorOf_iff.mpr ⟨below, path.symm⟩
    · exact Std.OrientedCmp.gt_of_lt above.compare_eq_lt
  · rintro ⟨initial, after⟩
    rcases isAncestorOf_iff.mp initial with ⟨below, path⟩
    refine above_iff.mpr ⟨nonempty, below, ?_, path.symm⟩
    rintro rfl
    rw [List.append_nil] at path
    have same : compare other k = compare other.path k.path := rfl
    rw [same, path, Std.compare_self] at after
    contradiction

/-! ## The parents of keys that are made -/

theorem parent?_withNumber (key : Key) (id : Int64) :
    (key.withNumber id).parent? = key.parent? := by
  unfold withNumber
  cases last : key.path.getLast? with
  | none => rfl
  | some element =>
      have filled : key.path ≠ [] := by
        rintro empty
        simp [empty] at last
      have counted : 1 ≤ key.path.length := List.length_pos_iff.mpr filled
      have sameLength : key.path.length - 1 + 1 = key.path.length := Nat.sub_add_cancel counted
      simp [parent?, sameLength]

theorem parent?_of_incomplete {parent : Option Key} {kind : String}
    {key : Key} (made : incomplete parent kind = .ok key) : key.parent? = parent := by
  simp only [incomplete, Failure.guard_eq_ok_iff] at made
  cases parent with
  | none =>
      cases Failure.pure_eq_ok_iff.mp made.2
      rfl
  | some above =>
      rcases Failure.require_eq_ok_iff.mp made.2 with ⟨complete, returned⟩
      cases Failure.pure_eq_ok_iff.mp returned
      refine parent?_eq_some_iff.mpr ⟨?_, _, rfl⟩
      intro empty
      simp [isComplete, empty] at complete

end EntityStore.Key
