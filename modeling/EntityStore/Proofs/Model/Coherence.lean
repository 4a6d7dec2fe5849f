import EntityStore.Proofs.Key.Ancestry
import EntityStore.Proofs.Model.Edits

/-!
# What an instance remembers

An instance remembers the instances that its references and its parent led to.  A bare key can be
assigned at any time, by the property itself even without forgetting what is remembered, so what is
remembered need not have the key that is held.  But it is always of the kind that the reference asks
for, a held key always has an identifier, and the remembered parent has the key of the parent.
-/

namespace EntityStore

namespace Model

variable {m m' : Model} {name other : String} {p : Property} {r : Reference} {v w : Value}
  {target known : Model} {key : Key} {e : Entity} {moment : Moment}

theorem isEmptyValue_key (p : Property) (key : Key) : p.isEmptyValue (.key key) = false := by
  unfold Property.isEmptyValue
  split <;> rfl

/-- Only a key with an identifier can be held. -/
theorem hasIdentifier_of_holds (holds : p.Holds (.key key)) : key.hasIdentifier = true := by
  have admitted := holds.admits (isEmptyValue_key p key)
  have type := admitted.type
  cases kind : p.kind with
  | reference r => exact admitted.identified r key kind rfl
  | _ =>
      rw [kind] at type
      cases type

theorem referenceProperty_congr (same : m'.schema = m.schema) (name : String) :
    m'.referenceProperty name = m.referenceProperty name := by
  simp only [referenceProperty, kind, same]

theorem reference?_of_referenceProperty (named : m.referenceProperty name = .ok (p, r)) :
    p.reference? = some r := by
  unfold referenceProperty at named
  split at named
  · contradiction
  · split at named
    next refers =>
      cases Failure.pure_eq_ok_iff.mp named
      exact refers
    · contradiction

theorem validate_key (refers : p.reference? = some r)
    (validated : p.validate (.key key) = .ok w) : w = .key key := by
  have kind : p.kind = .reference r := by
    unfold Property.reference? at refers
    split at refers
    next kind =>
      cases refers
      exact kind
    · contradiction
  have coerced := ((Property.validate_eq_ok_iff (isEmptyValue_key p key)).mp validated).1
  rw [kind] at coerced
  exact (Failure.pure_eq_ok_iff.mp (Failure.require_eq_ok_iff.mp coerced).2).symm

/-- What is true of what an instance holds and remembers, at every moment. -/
structure Coherent (m : Model) : Prop where
  placed : ∀ above, m.parentKey? = some above → above.path ≠ []
  /-- The remembered parent has the key of the parent. -/
  parent : ∀ parent, m.parent = some parent →
    ∃ above, parent.key = .ok above ∧ m.parentKey? = some above
  identified : ∀ attr key, m.value attr = .key key → key.hasIdentifier = true
  /-- A reference is only known to lead to an instance of the kind that it asks for. -/
  targets : ∀ name p r known, m.referenceProperty name = .ok (p, r) →
    m.resolved? name = some known → checkTarget name r known = .ok ()

theorem resolved?_forget (name other : String) :
    (m.forget name).resolved? other = if other = name then none else m.resolved? other := by
  simp only [resolved?, forget, List.find?_filter]
  split
  · rename_i same
    simp [same]
  · rename_i different
    congr 2
    funext entry
    simp only [bne_iff_ne, decide_eq_decide, decide_eq_true_eq, and_iff_right_iff_imp]
    rintro rfl
    exact different

theorem resolved?_remember_of_ne (different : other ≠ name) :
    (m.remember name target).resolved? other = m.resolved? other := by
  have skips : (m.remember name target).resolved? other = (m.forget name).resolved? other := by
    simp only [resolved?, remember]
    rw [List.find?_cons_of_neg (by simpa using different.symm)]
  rw [skips, resolved?_forget, if_neg different]

/-! ## Edits -/

/-- Whether all that an instance newly knows about its references is of the right kinds. -/
def Learns (m m' : Model) : Prop :=
  ∀ name p r known, m.referenceProperty name = .ok (p, r) → m'.resolved? name = some known →
    m.resolved? name = some known ∨ checkTarget name r known = .ok ()

theorem learns_of_resolved_eq (same : m'.resolved = m.resolved) : m.Learns m' := by
  intro name p r known _ found
  rw [resolved?, same] at found
  exact .inl found

theorem learns_forget (name : String) : m.Learns (m.forget name) := by
  intro other p r known _ found
  rw [resolved?_forget] at found
  split at found
  · contradiction
  · exact .inl found

theorem learns_remember (checked : ∀ p r, m.referenceProperty name = .ok (p, r) →
    checkTarget name r target = .ok ()) : m.Learns (m.remember name target) := by
  intro other p r known named found
  by_cases same : other = name
  · subst same
    rw [resolved?_remember] at found
    cases found
    exact .inr (checked p r named)
  · rw [resolved?_remember_of_ne same] at found
    exact .inl found

theorem learns_of_setDeclared (answered : m.setDeclared name p v = .ok m') : m.Learns m' := by
  simp only [setDeclared, assign, Failure.bind_eq_ok_iff, Failure.pure_eq_ok_iff] at answered
  obtain ⟨_, ⟨w, -, rfl⟩, rfl⟩ := answered
  exact learns_forget (m := m.hold p.attributeName w) name

theorem learns_of_setUndeclared (answered : m.setUndeclared name v = .ok m') : m.Learns m' := by
  apply learns_of_resolved_eq
  rcases Failure.exists_of_bind_eq_ok answered with ⟨-, -, answered⟩
  rcases Failure.guard_eq_ok_iff.mp answered with ⟨-, answered⟩
  split at answered
  · cases Failure.pure_eq_ok_iff.mp answered
    rfl
  · contradiction
  · rcases Failure.exists_of_bind_eq_ok answered with ⟨⟨⟩, -, returned⟩
    cases Failure.pure_eq_ok_iff.mp returned
    rfl

theorem learns_of_setDynamic (answered : m.setDynamic name v = .ok m') : m.Learns m' := by
  rcases Failure.exists_of_bind_eq_ok answered with ⟨⟨⟩, -, answered⟩
  split at answered
  · exact learns_of_setDeclared answered
  · exact learns_of_setUndeclared answered

theorem learns_of_set (answered : m.set name v = .ok m') : m.Learns m' := by
  unfold set at answered
  split at answered
  · exact learns_of_setDeclared answered
  · exact learns_of_setDynamic (Failure.require_eq_ok_iff.mp answered).2

theorem learns_of_setReference (answered : m.setReference name target = .ok m') :
    m.Learns m' := by
  simp only [setReference, Failure.bind_eq_ok_iff, Failure.guard_eq_ok_iff, assign,
    Failure.pure_eq_ok_iff] at answered
  obtain ⟨⟨p, r⟩, named, -, ⟨⟩, checked, key, -, _, ⟨w, -, rfl⟩, rfl⟩ := answered
  apply learns_remember (m := m.hold p.attributeName w)
  intro p' r' named'
  cases named.symm.trans named'
  exact checked

theorem learns_of_deleteDynamic (answered : m.deleteDynamic name = .ok m') : m.Learns m' := by
  apply learns_of_resolved_eq
  simp only [deleteDynamic, Failure.bind_eq_ok_iff, Failure.guard_eq_ok_iff,
    Failure.require_eq_ok_iff, Failure.pure_eq_ok_iff] at answered
  rcases answered with ⟨⟨⟩, -, -, -, rfl⟩
  rfl

theorem learns_of_apply {edit : Edit} (answered : edit.apply m = .ok m') : m.Learns m' := by
  cases edit with
  | set => exact learns_of_set answered
  | setReference => exact learns_of_setReference answered
  | setDynamic => exact learns_of_setDynamic answered
  | deleteDynamic => exact learns_of_deleteDynamic answered

theorem Edited.parentKey?_eq (edited : m.Edited m') : m'.parentKey? = m.parentKey? := by
  cases edited <;> rfl

theorem Edited.parent_eq (edited : m.Edited m') : m'.parent = m.parent := by
  cases edited <;> rfl

theorem Coherent.hold (coherent : m.Coherent) (holds : p.Holds v) (attr : String) :
    (m.hold attr v).Coherent where
  placed := coherent.placed
  parent := coherent.parent
  identified := by
    intro attr' key held
    rw [value_hold] at held
    split at held
    · rw [held] at holds
      exact hasIdentifier_of_holds holds
    · exact coherent.identified attr' key held
  targets := coherent.targets

theorem Coherent.edited (coherent : m.Coherent) (edited : m.Edited m') (learns : m.Learns m') :
    m'.Coherent where
  placed := by
    rw [edited.parentKey?_eq]
    exact coherent.placed
  parent := by
    rw [edited.parentKey?_eq, edited.parent_eq]
    exact coherent.parent
  identified := by
    cases edited with
    | declared p _ v w validated resolved =>
        exact (coherent.hold (Property.holds_of_validate validated) p.attributeName).identified
    | dynamic => exact coherent.identified
  targets := by
    intro name p r known named found
    rw [referenceProperty_congr edited.schema_eq] at named
    rcases learns name p r known named found with before | checked
    · exact coherent.targets name p r known named before
    · exact checked

theorem Coherent.apply (coherent : m.Coherent) {edit : Edit} (answered : edit.apply m = .ok m') :
    m'.Coherent :=
  coherent.edited (edited_of_apply answered) (learns_of_apply answered)

/-! ## New instances -/

/-- A new instance that was given a parent instance lies below the key of that. -/
theorem key_of_parent_blank {b : Builder} {identity : Identity} {given : Option Key}
    (parentKey : b.parentKey = .ok given) {parent : Model}
    (remembered : (b.blank identity).parent = some parent) :
    ∃ above, parent.key = .ok above ∧ given = some above := by
  simp only [Builder.blank] at remembered
  split at remembered
  next given' =>
    cases remembered
    simp only [Builder.parentKey, given', Failure.map_eq_ok_iff, Builder.parentKeyOf,
      Failure.require_eq_ok_iff] at parentKey
    rcases parentKey with ⟨above, ⟨-, keyed⟩, rfl⟩
    exact ⟨above, keyed, rfl⟩
  · contradiction

/-- A new instance lies below the given parent, which has a path. -/
theorem parentKey?_blank {b : Builder} {identity : Identity} {given : Option Key}
    (parentKey : b.parentKey = .ok given) (addressed : b.identity = .ok identity) :
    (∀ above, (b.blank identity).parentKey? = some above → above.path ≠ []) ∧
      ∀ above, given = some above → (b.blank identity).parentKey? = some above := by
  simp only [Builder.identity, parentKey, Failure.bind_eq_ok_iff, Except.ok.injEq,
    exists_eq_left'] at addressed
  split at addressed
  next key _ =>
    rcases Failure.exists_of_bind_eq_ok addressed with ⟨⟨⟩, checked, returned⟩
    cases Failure.pure_eq_ok_iff.mp returned
    simp only [Builder.checkKey, Failure.guard_eq_ok_iff] at checked
    constructor
    · intro above up
      exact (Key.parent?_eq_some_iff.mp up).1
    · rintro above rfl
      have below : key.parent? = some above := by
        simpa using (Failure.refuse_eq_ok_iff.mp checked.2.2.2).1
      exact below
  · rcases Failure.exists_of_bind_eq_ok addressed with ⟨⟨⟩, checked, returned⟩
    cases Failure.pure_eq_ok_iff.mp returned
    simp only [Builder.checkPending, Failure.guard_eq_ok_iff] at checked
    cases given with
    | none =>
        constructor
        · intro above up
          cases up
        · intro above same
          cases same
    | some above =>
        constructor
        · intro above' up empty
          cases up
          simp [Key.isComplete, empty] at checked
        · intro above' same
          cases same
          rfl

theorem coherent_of_identity {b : Builder} {identity : Identity}
    (addressed : b.identity = .ok identity) : (b.blank identity).Coherent := by
  rcases Failure.exists_of_bind_eq_ok addressed with ⟨given, parentKey, -⟩
  rcases parentKey?_blank parentKey addressed with ⟨placed, below⟩
  constructor
  case placed => exact placed
  case parent =>
    intro parent remembered
    rcases key_of_parent_blank parentKey remembered with ⟨above, keyed, given⟩
    exact ⟨above, keyed, below above given⟩
  case identified =>
    intro attr key held
    cases held
  case targets =>
    intro name p r known _ found
    cases found

theorem coherent_of_build {b : Builder} (built : b.build moment = .ok m) : m.Coherent := by
  rcases Builder.build_eq_ok_iff.mp built with ⟨-, identity, addressed, start, defaults, fields⟩
  have started : start.Coherent := by
    refine Failure.invariant_of_foldlM ?_ (coherent_of_identity addressed) defaults
    intro p _ m m' coherent answered
    rcases Builder.startProperty_eq_ok answered with ⟨v, holds, rfl⟩
    exact coherent.hold holds p.attributeName
  refine Failure.invariant_of_foldlM ?_ started fields
  intro field _ m m' coherent answered
  rw [Builder.setField_eq] at answered
  exact coherent.apply answered

/-! ## Staying in place -/

/-- An instance, and the same when all it holds and remembers is as it was and it is still at its
place. -/
structure Stays (m m' : Model) : Prop where
  schema_eq : m'.schema = m.schema
  values_eq : m'.values = m.values
  resolved_eq : m'.resolved = m.resolved
  parent_eq : m'.parent = m.parent
  parentKey?_eq : m'.parentKey? = m.parentKey?

theorem Coherent.stays (coherent : m.Coherent) (stays : m.Stays m') : m'.Coherent where
  placed := by
    rw [stays.parentKey?_eq]
    exact coherent.placed
  parent := by
    rw [stays.parentKey?_eq, stays.parent_eq]
    exact coherent.parent
  identified := by
    intro attr key held
    rw [value, stays.values_eq] at held
    exact coherent.identified attr key held
  targets := by
    intro name p r known named found
    rw [referenceProperty_congr stays.schema_eq] at named
    rw [resolved?, stays.resolved_eq] at found
    exact coherent.targets name p r known named found

end Model

end EntityStore
