import EntityStore.Proofs.Failure
import EntityStore.Schema.Basic
import Mathlib.Data.List.Nodup

/-!
# Names in a schema

Every attribute name and every storage name of a defined schema belongs to one property: a name
that an inherited or declared property would repeat is refused.  So what is indexed in records is
settled property by property.  No property takes a name that is reserved, neither here nor in a
base.
-/

namespace EntityStore

/-- A property that has been declared: bound to an attribute whose name a property may have. -/
structure Property.Declared (p : Property) : Prop where
  named : Schema.checkName p.attributeName = .ok ()
  bound : ∃ p₀ kind, Property.bind p₀ kind p.attributeName = .ok p

namespace Schema

variable {s : Schema} {p q : Property}

/-- A schema in which no two properties share an attribute or a place in records. -/
structure Distinct (s : Schema) : Prop where
  attributes : (s.properties.map (·.attributeName)).Nodup
  slots : (s.properties.map (·.storageName)).Nodup

theorem Distinct.eq_of_attributeName (distinct : s.Distinct) (left : p ∈ s.properties)
    (right : q ∈ s.properties) (same : p.attributeName = q.attributeName) : p = q :=
  List.inj_on_of_nodup_map distinct.attributes left right same

theorem Distinct.eq_of_storageName (distinct : s.Distinct) (left : p ∈ s.properties)
    (right : q ∈ s.properties) (same : p.storageName = q.storageName) : p = q :=
  List.inj_on_of_nodup_map distinct.slots left right same

theorem property?_eq_some {attr : String} (found : s.property? attr = some p) :
    p ∈ s.properties ∧ p.attributeName = attr :=
  ⟨List.mem_of_find?_eq_some found, by simpa using List.find?_some found⟩

/-- Among distinct names a search finds exactly the property of a name. -/
theorem find?_eq_some_iff_of_nodup {properties : List Property} {nameOf : Property → String}
    (distinct : (properties.map nameOf).Nodup) {name : String} :
    properties.find? (fun p => nameOf p = name) = some p ↔ p ∈ properties ∧ nameOf p = name := by
  constructor
  · intro found
    exact ⟨List.mem_of_find?_eq_some found, by simpa using List.find?_some found⟩
  · rintro ⟨member, rfl⟩
    cases found : properties.find? fun q => nameOf q = nameOf p with
    | none =>
      have absent := List.find?_eq_none.mp found p member
      simp at absent
    | some q =>
      have same : nameOf q = nameOf p := by simpa using List.find?_some found
      rw [List.inj_on_of_nodup_map distinct (List.mem_of_find?_eq_some found) member same]

theorem Distinct.property?_eq (distinct : s.Distinct) (member : p ∈ s.properties) :
    s.property? p.attributeName = some p :=
  (find?_eq_some_iff_of_nodup distinct.attributes).mpr ⟨member, rfl⟩

theorem propertyByStorageName?_isSome_iff {name : String} :
    (s.propertyByStorageName? name).isSome = true ↔
      ∃ p ∈ s.properties, p.storageName = name := by
  simp [propertyByStorageName?]

end Schema

namespace Definition

variable {d : Definition} {s : Schema} {kind : String} {properties properties' : List Property}

/-- What a definition puts together. -/
theorem assemble_eq_ok (defined : d.assemble = .ok s) :
    ∃ inherited, inheritedProperties d.bases = .ok inherited ∧
      d.declared.foldlM (declareProperty d.kind) inherited = .ok s.properties ∧
      checkStorageNames d.kind [] s.properties = .ok () ∧ s.kind ≠ "" ∧
      s.unindexed = .ofList ((s.properties.filter (!·.isIndexed)).map (·.storageName)) := by
  simp only [assemble, Failure.bind_eq_ok_iff, Failure.guard_eq_ok_iff,
    Failure.pure_eq_ok_iff] at defined
  rcases defined with ⟨named, inherited, fromBases, properties, declared, ⟨⟩, checked, rfl⟩
  exact ⟨inherited, fromBases, declared, checked, by simpa using named, rfl⟩

/-- The names on instances of some properties. -/
def attributes (properties : List Property) : List String :=
  properties.map (·.attributeName)

theorem nodup_attributes_append {p : Property} (distinct : (attributes properties).Nodup)
    (fresh : ∀ q ∈ properties, q.attributeName ≠ p.attributeName) :
    (attributes (properties ++ [p])).Nodup := by
  simpa [attributes, List.nodup_append] using ⟨distinct, fresh⟩

/-- An inherited property is added unless its attribute is there already, from the same kind. -/
theorem cases_of_inheritProperty {p : Property}
    (inherited : inheritProperty properties p = .ok properties') :
    (∃ q, properties.find? (fun q => q.attributeName = p.attributeName) = some q ∧
        q.ownerKind? = p.ownerKind? ∧ properties' = properties) ∨
      properties.find? (fun q => q.attributeName = p.attributeName) = none ∧
        properties' = properties ++ [p] := by
  unfold inheritProperty at inherited
  split at inherited
  next q found =>
    obtain ⟨sameOwner, returned⟩ := Failure.require_eq_ok_iff.mp inherited
    exact .inl ⟨q, found, sameOwner, (Failure.pure_eq_ok_iff.mp returned).symm⟩
  next absent => exact .inr ⟨absent, (Failure.pure_eq_ok_iff.mp inherited).symm⟩

theorem nodup_inheritProperty {p : Property} (distinct : (attributes properties).Nodup)
    (inherited : inheritProperty properties p = .ok properties') :
    (attributes properties').Nodup := by
  rcases cases_of_inheritProperty inherited with ⟨_, -, -, rfl⟩ | ⟨absent, rfl⟩
  · exact distinct
  · exact nodup_attributes_append distinct (by simpa using absent)

theorem nodup_foldlM_inheritProperty {more : List Property}
    (distinct : (attributes properties).Nodup)
    (inherited : more.foldlM inheritProperty properties = .ok properties') :
    (attributes properties').Nodup :=
  Failure.invariant_of_foldlM (P := fun properties => (attributes properties).Nodup)
    (fun _ _ => nodup_inheritProperty) distinct inherited

theorem binding_bind {p bound : Property} {attr : String}
    (answered : p.bind kind attr = .ok bound) : bound.binding = some ⟨kind, attr⟩ := by
  unfold Property.bind at answered
  split at answered
  · contradiction
  · obtain ⟨⟨⟩, -, returned⟩ := Failure.exists_of_bind_eq_ok answered
    cases Failure.pure_eq_ok_iff.mp returned
    rfl

theorem attributeName_bind {p bound : Property} {attr : String}
    (answered : p.bind kind attr = .ok bound) : bound.attributeName = attr := by
  rw [Property.attributeName, binding_bind answered]
  rfl

/-- Whether a property is what a declaration comes to in a kind. -/
def Binds (kind : String) (declared : String × Property) (p : Property) : Prop :=
  declared.2.bind kind declared.1 = .ok p

/-- A declaration adds what it comes to, under an allowed name that is not there yet. -/
theorem exists_of_declareProperty {declared : String × Property}
    (added : declareProperty kind properties declared = .ok properties') :
    Schema.checkName declared.1 = .ok () ∧ (∀ q ∈ properties, q.attributeName ≠ declared.1) ∧
      ∃ bound, Binds kind declared bound ∧ properties' = properties ++ [bound] := by
  obtain ⟨attr, p⟩ := declared
  simp only [declareProperty, Failure.bind_eq_ok_iff, Failure.guard_eq_ok_iff,
    Failure.pure_eq_ok_iff] at added
  obtain ⟨⟨⟩, allowed, fresh, bound, answered, rfl⟩ := added
  exact ⟨allowed, by simpa using fresh, bound, answered, rfl⟩

theorem nodup_declareProperty {declared : String × Property}
    (distinct : (attributes properties).Nodup)
    (added : declareProperty kind properties declared = .ok properties') :
    (attributes properties').Nodup := by
  obtain ⟨-, fresh, bound, binds, rfl⟩ := exists_of_declareProperty added
  refine nodup_attributes_append distinct fun q member => ?_
  rw [attributeName_bind binds]
  exact fresh q member

theorem nodup_of_checkStorageNames {seen : List String}
    (passed : checkStorageNames kind seen properties = .ok ()) :
    (properties.map (·.storageName)).Nodup ∧
      ∀ p ∈ properties, p.storageName ∉ seen := by
  induction properties generalizing seen with
  | nil => simp
  | cons p rest ih =>
    rw [checkStorageNames, Failure.refuse_eq_ok_iff] at passed
    obtain ⟨fresh, passed⟩ := passed
    obtain ⟨distinct, unseen⟩ := ih passed
    simp only [List.mem_cons, not_or] at unseen
    refine ⟨List.nodup_cons.mpr ⟨fun repeated => ?_, distinct⟩, fun q member => ?_⟩
    · obtain ⟨q, member, same⟩ := List.mem_map.mp repeated
      exact (unseen q member).1 same
    · rcases List.mem_cons.mp member with rfl | member
      · simpa using fresh
      · exact (unseen q member).2

theorem distinct_of_assemble (defined : d.assemble = .ok s) : s.Distinct := by
  obtain ⟨inherited, fromBases, declared, checked, -⟩ := assemble_eq_ok defined
  have start : (attributes inherited).Nodup :=
    nodup_foldlM_inheritProperty (show (attributes []).Nodup from List.nodup_nil) fromBases
  exact ⟨Failure.invariant_of_foldlM (P := fun properties => (attributes properties).Nodup)
      (fun _ _ => nodup_declareProperty) start declared,
    (nodup_of_checkStorageNames checked).1⟩

/-- Whether all properties have been declared. -/
def AllDeclared (properties : List Property) : Prop :=
  ∀ p ∈ properties, p.Declared

theorem allDeclared_append {p : Property} (before : AllDeclared properties)
    (declared : p.Declared) : AllDeclared (properties ++ [p]) :=
  List.forall_mem_append.mpr ⟨before, List.forall_mem_singleton.mpr declared⟩

theorem allDeclared_inheritProperty {p : Property} (before : AllDeclared properties)
    (declared : p.Declared) (inherited : inheritProperty properties p = .ok properties') :
    AllDeclared properties' := by
  rcases cases_of_inheritProperty inherited with ⟨_, -, -, rfl⟩ | ⟨-, rfl⟩
  · exact before
  · exact allDeclared_append before declared

theorem allDeclared_declareProperty {declared : String × Property} (before : AllDeclared properties)
    (added : declareProperty kind properties declared = .ok properties') :
    AllDeclared properties' := by
  obtain ⟨allowed, -, bound, binds, rfl⟩ := exists_of_declareProperty added
  have same := attributeName_bind binds
  exact allDeclared_append before ⟨by rwa [same], declared.2, kind, by rwa [same]⟩

end Definition

/-- A schema that was put together by a definition, with bases that were put together too. -/
inductive Schema.Defined : Schema → Prop where
  | assemble {d : Definition} {s : Schema} (bases : ∀ base ∈ d.bases, Defined base)
      (assembled : d.assemble = .ok s) : Defined s

namespace Schema

variable {s : Schema} {p : Property}

theorem Defined.exists_assemble (defined : s.Defined) : ∃ d : Definition, d.assemble = .ok s := by
  cases defined with
  | assemble bases assembled => exact ⟨_, assembled⟩

theorem Defined.distinct (defined : s.Defined) : s.Distinct := by
  rcases defined.exists_assemble with ⟨d, assembled⟩
  exact Definition.distinct_of_assemble assembled

theorem Defined.kind_ne (defined : s.Defined) : s.kind ≠ "" := by
  rcases defined.exists_assemble with ⟨d, assembled⟩
  rcases Definition.assemble_eq_ok assembled with ⟨_, -, -, -, named, -⟩
  exact named

/-- Exactly the storage names of properties that are not indexed are left out of the indexes. -/
theorem Defined.mem_unindexed_iff (defined : s.Defined) {name : String} :
    name ∈ s.unindexed ↔ ∃ p ∈ s.properties, p.isIndexed = false ∧ p.storageName = name := by
  rcases defined.exists_assemble with ⟨d, assembled⟩
  rcases Definition.assemble_eq_ok assembled with ⟨_, -, -, -, -, unindexed⟩
  rw [unindexed]
  simp [Std.ExtTreeSet.mem_ofList, and_assoc]

/-- An indexed property has a place of its own, so it is indexed. -/
theorem Defined.not_mem_unindexed (defined : s.Defined) (member : p ∈ s.properties)
    (indexed : p.isIndexed = true) : p.storageName ∉ s.unindexed := by
  intro left
  rcases defined.mem_unindexed_iff.mp left with ⟨q, member', unindexed, same⟩
  rw [defined.distinct.eq_of_storageName member' member same, indexed] at unindexed
  contradiction

/-- Every property has been declared, here or in a base. -/
theorem Defined.declared (defined : s.Defined) : ∀ p ∈ s.properties, p.Declared := by
  induction defined with
  | assemble bases assembled fromBase =>
    rcases Definition.assemble_eq_ok assembled with ⟨inherited, inherits, declares, -⟩
    have start : Definition.AllDeclared inherited := by
      have none : Definition.AllDeclared [] := fun p member => absurd member List.not_mem_nil
      refine Failure.invariant_of_foldlM (P := Definition.AllDeclared) ?_ none inherits
      intro p member _ _ before added
      rcases List.mem_flatMap.mp member with ⟨base, ofBases, ofBase⟩
      exact Definition.allDeclared_inheritProperty before (fromBase base ofBases p ofBase) added
    exact Failure.invariant_of_foldlM (P := Definition.AllDeclared)
      (fun _ _ => Definition.allDeclared_declareProperty) start declares

/-- The collection of a reference property has been settled. -/
theorem Defined.exists_collection (defined : s.Defined) (member : p ∈ s.properties)
    {reference : Reference} (refers : p.reference? = some reference) :
    ∃ name, reference.collection = some name := by
  rcases (defined.declared p member).bound with ⟨p₀, kind, answered⟩
  unfold Property.bind at answered
  split at answered
  · contradiction
  · obtain ⟨⟨⟩, -, returned⟩ := Failure.exists_of_bind_eq_ok answered
    rw [← Failure.pure_eq_ok_iff.mp returned, Property.reference?] at refers
    cases kindIs : p₀.kind <;> simp only [kindIs] at refers <;> cases refers
    exact ⟨_, rfl⟩

/-- No property goes by the name of the key. -/
theorem Defined.attributeName_ne (defined : s.Defined) (member : p ∈ s.properties) :
    p.attributeName ≠ Key.propertyName := by
  intro same
  have special : isSpecialName Key.propertyName = true := by decide
  have allowed := (defined.declared p member).named
  rw [same, checkName, if_pos special] at allowed
  exact Failure.throw_ne_ok allowed

end Schema

end EntityStore
