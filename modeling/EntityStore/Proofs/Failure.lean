import EntityStore.Failure

/-!
# Checks that pass

What a computation that may fail says when it answers: every step of it has answered, no failure
was raised, and the guards held.
-/

namespace EntityStore.Failure

variable {α β : Type} {a : α} {b : β} {cause : Failure}

theorem bind_eq_ok_iff {x : Except Failure α} {f : α → Except Failure β} :
    x >>= f = .ok b ↔ ∃ a, x = .ok a ∧ f a = .ok b := by
  refine ⟨exists_of_bind_eq_ok, ?_⟩
  rintro ⟨a, rfl, answered⟩
  exact answered

theorem map_eq_ok_iff {x : Except Failure α} {f : α → β} :
    x.map f = .ok b ↔ ∃ a, x = .ok a ∧ f a = b := by
  cases x <;> simp [Except.map]

theorem pure_eq_ok_iff {a' : α} : (pure a : Except Failure α) = .ok a' ↔ a = a' := by
  simp [pure, Except.pure]

theorem throw_ne_ok : (throw cause : Except Failure α) ≠ .ok a :=
  nofun

/-- A guard lets pass what meets its condition. -/
theorem require_eq_ok_iff {c : Prop} [Decidable c] {x : Except Failure α} :
    (if c then x else throw cause) = .ok a ↔ c ∧ x = .ok a := by
  split <;> simp_all [throw_ne_ok]

/-- A guard lets pass what does not meet the condition that it refuses. -/
theorem refuse_eq_ok_iff {c : Prop} [Decidable c] {x : Except Failure α} :
    (if c then throw cause else x) = .ok a ↔ ¬ c ∧ x = .ok a := by
  split <;> simp_all [throw_ne_ok]

/-- A step that only refuses lets the rest go on where it does not. -/
theorem guard_eq_ok_iff {c : Prop} [Decidable c] {rest : Unit → Except Failure α} :
    (if c then (throw cause : Except Failure Unit) >>= rest else rest ()) = .ok a ↔
      ¬ c ∧ rest () = .ok a := by
  split
  · simp_all [bind_eq_ok_iff, throw_ne_ok]
  · simp_all

/-! ## Chains of steps -/

/-- What every step keeps, a whole chain of steps keeps. -/
theorem invariant_of_foldlM {P : β → Prop} {f : β → α → Except Failure β} {steps : List α}
    {b' : β} (step : ∀ a ∈ steps, ∀ {b b'}, P b → f b a = .ok b' → P b') (start : P b)
    (answered : steps.foldlM f b = .ok b') : P b' := by
  induction steps generalizing b with
  | nil =>
    cases pure_eq_ok_iff.mp answered
    exact start
  | cons a rest ih =>
    rw [List.foldlM_cons, bind_eq_ok_iff] at answered
    obtain ⟨next, first, answered⟩ := answered
    exact ih (fun a member => step a (.tail _ member)) (step a (.head _) start first) answered

/-- A chain of steps that all go on, and keep what lets the next ones go on, is answered. -/
theorem exists_of_foldlM {P : β → Prop} {f : β → α → Except Failure β} {steps : List α}
    (step : ∀ a ∈ steps, ∀ b, P b → ∃ b', f b a = .ok b' ∧ P b') {b : β} (start : P b) :
    ∃ b', steps.foldlM f b = .ok b' ∧ P b' := by
  induction steps generalizing b with
  | nil => exact ⟨b, rfl, start⟩
  | cons a rest ih =>
    obtain ⟨next, first, kept⟩ := step a (.head _) b start
    obtain ⟨last, answered, holds⟩ := ih (fun a member => step a (.tail _ member)) kept
    exact ⟨last, by rw [List.foldlM_cons, first]; exact answered, holds⟩

/-- What one step of a chain brings about and every other step keeps, holds at the end. -/
theorem outcome_of_foldlM {P : β → Prop} {f : β → α → Except Failure β} {steps : List α}
    {b' : β} (member : a ∈ steps) (reached : ∀ {b b'}, f b a = .ok b' → P b')
    (kept : ∀ a ∈ steps, ∀ {b b'}, P b → f b a = .ok b' → P b')
    (answered : steps.foldlM f b = .ok b') : P b' := by
  obtain ⟨before, after, rfl⟩ := List.append_of_mem member
  rw [List.foldlM_append, bind_eq_ok_iff] at answered
  obtain ⟨middle, -, answered⟩ := answered
  rw [List.foldlM_cons, bind_eq_ok_iff] at answered
  obtain ⟨next, first, answered⟩ := answered
  exact invariant_of_foldlM (fun a member => kept a (List.mem_append_right _ (.tail _ member)))
    (reached first) answered

/-- The same for steps that cannot fail. -/
theorem outcome_of_foldl {P : β → Prop} {f : β → α → β} {steps : List α} {b : β}
    (member : a ∈ steps) (reached : ∀ b, P (f b a)) (kept : ∀ a ∈ steps, ∀ b, P b → P (f b a)) :
    P (steps.foldl f b) := by
  obtain ⟨before, after, rfl⟩ := List.append_of_mem member
  rw [List.foldl_append, List.foldl_cons]
  exact List.foldlRecOn after f (reached _) fun b now a member =>
    kept a (List.mem_append_right _ (.tail _ member)) b now

end EntityStore.Failure
