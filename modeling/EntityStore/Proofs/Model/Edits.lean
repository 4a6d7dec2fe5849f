import EntityStore.Model.Builder
import EntityStore.Proofs.Key.Build
import EntityStore.Proofs.Property.Validation
import EntityStore.Proofs.Schema.Names

/-!
# Building and editing instances

An instance is built from the defaults of its properties and from fields, and then edited.  An edit
holds a validated value for one declared property or changes the dynamic values, so an instance
never holds anything that its properties do not admit.
-/

namespace EntityStore

/-- A change to an instance. -/
inductive Edit where
  | set (name : String) (v : Value)
  | setReference (name : String) (target : Model)
  | setDynamic (name : String) (v : Value)
  | deleteDynamic (name : String)

/-- Makes the edit on an instance. -/
def Edit.apply (m : Model) : Edit → Except Failure Model
  | .set name v => m.set name v
  | .setReference name target => m.setReference name target
  | .setDynamic name v => m.setDynamic name v
  | .deleteDynamic name => m.deleteDynamic name

/-- Whether a dynamic property may hold a value. -/
structure Value.IsDynamic (v : Value) : Prop where
  filled : v ≠ .list []
  checked : ∃ name, v.checkDynamic name = .ok ()

namespace Model

variable {m m' : Model} {p : Property} {name attr : String} {v : Value}

theorem value_hold : (m.hold attr v).value name = if attr = name then v else m.value name := by
  simp only [hold, value, Std.ExtTreeMap.getElem?_insert, Std.compare_eq_iff_eq]
  split <;> rfl

theorem resolved?_remember {target : Model} :
    (m.remember name target).resolved? name = some target := by
  simp [remember, resolved?]

/-- What an instance becomes by an edit: it holds one more validated value, or its dynamic values
change, if its kind allows them, and those that come in are allowed.  It may also know better where
its references lead. -/
inductive Edited (m : Model) : Model → Prop where
  | declared (p : Property) (member : p ∈ m.schema.properties) (v w : Value)
      (validated : p.validate v = .ok w) (resolved : List (String × Model)) :
      Edited m { m.hold p.attributeName w with resolved }
  | dynamic (dynamic : Fields) (expando : m.schema.isExpando = true)
      (allowed : ∀ (name : String) (v : Value), dynamic[name]? = some v →
        m.dynamic[name]? = some v ∨ v.IsDynamic) :
      Edited m { m with dynamic }

theorem requireExpando_eq_ok_iff : m.requireExpando = .ok () ↔ m.schema.isExpando = true := by
  rw [requireExpando, Failure.require_eq_ok_iff]
  exact and_iff_left rfl

/-- Dynamic values can be taken away. -/
theorem edited_erase (expando : m.schema.isExpando = true) (name : String) :
    m.Edited { m with dynamic := m.dynamic.erase name } := by
  apply Edited.dynamic _ expando
  intro name' v found
  rw [Std.ExtTreeMap.getElem?_erase] at found
  split at found
  · contradiction
  · exact .inl found

theorem edited_insert (expando : m.schema.isExpando = true) (name : String)
    (allowed : v.IsDynamic) : m.Edited { m with dynamic := m.dynamic.insert name v } := by
  apply Edited.dynamic _ expando
  intro name' v' found
  rw [Std.ExtTreeMap.getElem?_insert] at found
  split at found
  · cases found
    exact .inr allowed
  · exact .inl found

theorem edited_of_setDeclared (found : m.schema.property? name = some p)
    (answered : m.setDeclared name p v = .ok m') : m.Edited m' := by
  simp only [setDeclared, assign, Failure.bind_eq_ok_iff, Failure.pure_eq_ok_iff] at answered
  obtain ⟨_, ⟨w, validated, rfl⟩, rfl⟩ := answered
  exact .declared p (Schema.property?_eq_some found).1 v w validated _

theorem edited_of_setUndeclared (expando : m.schema.isExpando = true)
    (answered : m.setUndeclared name v = .ok m') : m.Edited m' := by
  rcases Failure.exists_of_bind_eq_ok answered with ⟨-, -, answered⟩
  rcases Failure.guard_eq_ok_iff.mp answered with ⟨-, answered⟩
  split at answered
  · cases Failure.pure_eq_ok_iff.mp answered
    exact edited_erase expando name
  · contradiction
  next filled =>
    rcases Failure.exists_of_bind_eq_ok answered with ⟨⟨⟩, checked, returned⟩
    cases Failure.pure_eq_ok_iff.mp returned
    exact edited_insert expando name ⟨filled, name, checked⟩

theorem edited_of_setDynamic (answered : m.setDynamic name v = .ok m') : m.Edited m' := by
  rcases Failure.exists_of_bind_eq_ok answered with ⟨⟨⟩, required, answered⟩
  split at answered
  next found => exact edited_of_setDeclared found answered
  · exact edited_of_setUndeclared (requireExpando_eq_ok_iff.mp required) answered

theorem edited_of_set (answered : m.set name v = .ok m') : m.Edited m' := by
  unfold set at answered
  split at answered
  next found => exact edited_of_setDeclared found answered
  · exact edited_of_setDynamic (Failure.require_eq_ok_iff.mp answered).2

theorem edited_of_setReference {target : Model}
    (answered : m.setReference name target = .ok m') : m.Edited m' := by
  simp only [setReference, Failure.bind_eq_ok_iff, Failure.guard_eq_ok_iff, assign,
    Failure.pure_eq_ok_iff] at answered
  obtain ⟨⟨p, r⟩, named, -, -, -, key, -, _, ⟨w, validated, rfl⟩, rfl⟩ := answered
  unfold referenceProperty at named
  split at named
  · contradiction
  next found =>
    split at named
    · cases Failure.pure_eq_ok_iff.mp named
      exact .declared _ (Schema.property?_eq_some found).1 _ w validated _
    · contradiction

theorem edited_of_deleteDynamic (answered : m.deleteDynamic name = .ok m') : m.Edited m' := by
  simp only [deleteDynamic, Failure.bind_eq_ok_iff, Failure.guard_eq_ok_iff,
    Failure.require_eq_ok_iff, Failure.pure_eq_ok_iff] at answered
  rcases answered with ⟨⟨⟩, required, -, -, rfl⟩
  exact edited_erase (requireExpando_eq_ok_iff.mp required) name

theorem edited_of_apply {edit : Edit} (answered : edit.apply m = .ok m') : m.Edited m' := by
  cases edit with
  | set => exact edited_of_set answered
  | setReference => exact edited_of_setReference answered
  | setDynamic => exact edited_of_setDynamic answered
  | deleteDynamic => exact edited_of_deleteDynamic answered

theorem Edited.schema_eq (edited : m.Edited m') : m'.schema = m.schema := by
  cases edited <;> rfl

theorem Edited.entity_eq (edited : m.Edited m') : m'.entity = m.entity := by
  cases edited <;> rfl

/-- An edit does not move an instance. -/
theorem Edited.writeKey_eq (edited : m.Edited m') : m'.writeKey = m.writeKey := by
  cases edited <;> rfl

/-- Whether an instance holds for every property of a schema what the property may hold. -/
def HoldsAll (schema : Schema) (m : Model) : Prop :=
  ∀ p ∈ schema.properties, p.Holds (m.value p.attributeName)

variable {schema : Schema}

theorem HoldsAll.hold (distinct : schema.Distinct) (before : m.HoldsAll schema)
    (member : p ∈ schema.properties) (holds : p.Holds v) :
    (m.hold p.attributeName v).HoldsAll schema := by
  intro q member'
  rw [value_hold]
  split
  next same => rwa [← distinct.eq_of_attributeName member member' same]
  · exact before q member'

theorem HoldsAll.edited (distinct : schema.Distinct) (before : m.HoldsAll schema)
    (ofSchema : m.schema = schema) (edited : m.Edited m') : m'.HoldsAll schema := by
  cases edited with
  | declared p member v w validated resolved =>
    rw [ofSchema] at member
    exact before.hold distinct member (Property.holds_of_validate validated)
  | dynamic => exact before

/-! ## Instances that were never written -/

/-- An instance that is still addressed as it was described and was never written. -/
structure Fresh (b : Builder) (m : Model) : Prop where
  schema_eq : m.schema = b.schema
  entity_eq : m.entity = none
  identity_eq : b.identity = .ok m.identity

variable {b : Builder}

theorem Fresh.edited (fresh : Fresh b m) (edited : m.Edited m') : Fresh b m' := by
  cases edited <;> exact ⟨fresh.schema_eq, fresh.entity_eq, fresh.identity_eq⟩

/-- Such an instance holds what its properties may hold. -/
structure Unwritten (b : Builder) (m : Model) : Prop extends Fresh b m where
  holds : ∀ p ∈ b.schema.properties, p.Holds (m.value p.attributeName)

theorem Unwritten.hold (distinct : b.schema.Distinct) (unwritten : Unwritten b m)
    (member : p ∈ b.schema.properties) (holds : p.Holds v) :
    Unwritten b (m.hold p.attributeName v) :=
  ⟨⟨unwritten.schema_eq, unwritten.entity_eq, unwritten.identity_eq⟩,
    HoldsAll.hold distinct unwritten.holds member holds⟩

theorem Unwritten.edited (distinct : b.schema.Distinct) (unwritten : Unwritten b m)
    (edited : m.Edited m') : Unwritten b m' :=
  ⟨unwritten.toFresh.edited edited,
    HoldsAll.edited distinct unwritten.holds unwritten.schema_eq edited⟩

theorem Unwritten.edits (distinct : b.schema.Distinct) (unwritten : Unwritten b m)
    {edits : List Edit} (answered : edits.foldlM Edit.apply m = .ok m') : Unwritten b m' :=
  Failure.invariant_of_foldlM (P := Unwritten b)
    (fun _ _ _ _ unwritten answered => unwritten.edited distinct (edited_of_apply answered))
    unwritten answered

end Model

namespace Builder

variable {b : Builder} {m : Model} {moment : Moment}

/-- The edit that a field of a new instance stands for. -/
def editOf : String × FieldArgument → Edit
  | (name, .value v) => .set name v
  | (name, .reference target) => .setReference name target

theorem setField_eq (field : String × FieldArgument) :
    setField m field = (editOf field).apply m := by
  obtain ⟨name, _ | _⟩ := field <;> rfl

theorem startProperty_eq_ok {m' : Model} {p : Property}
    (answered : startProperty moment m p = .ok m') :
    ∃ v, p.Holds v ∧ m' = m.hold p.attributeName v := by
  simp only [startProperty] at answered
  split at answered
  next empty =>
    cases Failure.pure_eq_ok_iff.mp answered
    exact ⟨_, .inr empty, rfl⟩
  · obtain ⟨v, validated, returned⟩ := Failure.exists_of_bind_eq_ok answered
    cases Failure.pure_eq_ok_iff.mp returned
    exact ⟨v, Property.holds_of_validate validated, rfl⟩

/-- A new instance before its properties get their defaults. -/
def blank (b : Builder) (identity : Identity) : Model where
  schema := b.schema
  identity := identity
  parent := match b.parent with
    | some (.model m) => some m
    | _ => none

theorem build_eq_ok_iff : b.build moment = .ok m ↔ b.schema.isAbstract = false ∧
    ∃ identity, b.identity = .ok identity ∧ ∃ start,
      b.schema.properties.foldlM (startProperty moment) (b.blank identity) = .ok start ∧
      b.fields.foldlM setField start = .ok m := by
  simp only [build, Failure.guard_eq_ok_iff, Failure.bind_eq_ok_iff, Bool.not_eq_true]
  rfl

/-- What the defaults and the fields of a new instance keep holds of the built instance. -/
theorem invariant_of_build {P : Model → Prop}
    (blank : ∀ m : Model, m.values = ∅ → m.dynamic = ∅ → m.Fresh b → P m)
    (started : ∀ p ∈ b.schema.properties, ∀ m v, p.Holds v → P m → P (m.hold p.attributeName v))
    (edited : ∀ m m', m.Edited m' → P m → P m') (built : b.build moment = .ok m) : P m := by
  simp only [build, Failure.guard_eq_ok_iff, Failure.bind_eq_ok_iff] at built
  obtain ⟨-, identity, addressed, start, defaults, fields⟩ := built
  have afterDefaults : P start := by
    refine Failure.invariant_of_foldlM ?_ (blank _ ?_ ?_ ?_) defaults
    · intro p member m m' before answered
      obtain ⟨v, holds, rfl⟩ := startProperty_eq_ok answered
      exact started p member m v holds before
    · rfl
    · rfl
    · exact ⟨rfl, rfl, addressed⟩
  refine Failure.invariant_of_foldlM ?_ afterDefaults fields
  intro field _ m m' before answered
  rw [setField_eq] at answered
  exact edited m m' (Model.edited_of_apply answered) before

theorem fresh_of_build (built : b.build moment = .ok m) : m.Fresh b :=
  invariant_of_build (fun _ _ _ fresh => fresh)
    (fun _ _ _ _ _ fresh => ⟨fresh.schema_eq, fresh.entity_eq, fresh.identity_eq⟩)
    (fun _ _ edited fresh => fresh.edited edited) built

theorem unwritten_of_build (distinct : b.schema.Distinct) (built : b.build moment = .ok m) :
    m.Unwritten b := by
  refine invariant_of_build ?_ ?_ ?_ built
  · intro m empty _ fresh
    refine ⟨fresh, fun p _ => .inr ?_⟩
    rw [Model.value, empty]
    exact p.isEmptyValue_null
  · exact fun p member m v holds unwritten => unwritten.hold distinct member holds
  · exact fun m m' edited unwritten => unwritten.edited distinct edited

/-- The key of an instance that was built has its kind. -/
theorem kind_of_writeKey (fresh : m.Fresh b) {key : Key} (keyed : m.writeKey = .ok key) :
    key.kind = b.schema.kind := by
  obtain ⟨schemaEq, unsaved, addressed⟩ := fresh
  obtain ⟨parent, -, addressed⟩ := Failure.exists_of_bind_eq_ok addressed
  simp only [Model.writeKey, unsaved, Model.kind, schemaEq] at keyed
  cases given : b.key with
  | some own =>
    simp only [given, Failure.bind_eq_ok_iff, Failure.pure_eq_ok_iff] at addressed
    obtain ⟨⟨⟩, checked, identityEq⟩ := addressed
    simp only [checkKey, Failure.guard_eq_ok_iff] at checked
    rw [← identityEq] at keyed
    obtain rfl : own = key := Failure.pure_eq_ok_iff.mp keyed
    simpa using checked.2.1
  | none =>
    simp only [given, Failure.bind_eq_ok_iff, Failure.pure_eq_ok_iff] at addressed
    obtain ⟨-, -, identityEq⟩ := addressed
    rw [← identityEq] at keyed
    split at keyed
    · contradiction
    · exact Key.kind_of_build keyed
    · exact Key.kind_of_incomplete keyed

end Builder

end EntityStore
