import EntityStore.Proofs.Action
import EntityStore.Proofs.Schema.Names
import EntityStore.Schema.Registry

/-!
# What a registry knows

A registration that succeeds adds the collections of its schema to those that were there and makes
the schema the one of its kind; nothing is ever taken away.  So after any registrations the
collections are those of all schemas that were registered, and the schema of a kind is the one that
was registered last.
-/

namespace EntityStore

/-! ## Declared references -/

/-- Whether a property is a reference to a kind that creates a collection of some name there. -/
def Property.RefersTo (p : Property) (target name : String) : Prop :=
  ∃ reference, p.reference? = some reference ∧ reference.targetKind? = some target ∧
    reference.collection = some name

namespace Schema

/-- The collections that the declared references of a schema create. -/
def collections (s : Schema) : List NewCollection :=
  s.declaredProperties.filterMap (Registry.collectionOf? s.kind)

theorem mem_collections_iff {s : Schema} {c : NewCollection} :
    c ∈ s.collections ↔ ∃ p ∈ s.declaredProperties, p.RefersTo c.target c.name ∧
      c.reverse = ⟨s.kind, p.attributeName, p.storageName⟩ := by
  rcases c with ⟨target, name, reverse⟩
  simp only [collections, List.mem_filterMap, Registry.collectionOf?, Option.bind_eq_bind,
    Option.bind_eq_some_iff, Property.RefersTo, Option.pure_def, Option.some.injEq,
    NewCollection.mk.injEq]
  constructor
  · rintro ⟨p, declared, reference, refers, _, target, _, name, rfl, rfl, rfl⟩
    exact ⟨p, declared, ⟨reference, refers, target, name⟩, rfl⟩
  · rintro ⟨p, declared, ⟨reference, refers, target, name⟩, rfl⟩
    exact ⟨p, declared, reference, refers, _, target, _, name, rfl, rfl, rfl⟩

theorem mem_properties_of_declared {s : Schema} {p : Property}
    (declared : p ∈ s.declaredProperties) : p ∈ s.properties := by
  obtain ⟨attr, _, found⟩ := List.mem_filterMap.mp declared
  exact (property?_eq_some found).1

end Schema

namespace Registry

variable {r r' : Registry} {s : Schema}

/-! ## Writing collections -/

/-- A registry with one more collection. -/
def withCollection (r : Registry) (c : NewCollection) : Registry :=
  { r with collections := insertCollection r.collections c }

theorem collection?_withCollection (r : Registry) (c : NewCollection) (target name : String) :
    (r.withCollection c).collection? target name =
      if c.target = target ∧ c.name = name then some c.reverse
      else r.collection? target name := by
  by_cases sameTarget : c.target = target
  · subst sameTarget
    simp only [collection?, collectionsOf, withCollection, insertCollection,
      Std.ExtTreeMap.getElem?_insert_self, Option.getD_some, true_and]
    rw [Std.ExtTreeMap.getElem?_insert]
    simp
  · simp [collection?, collectionsOf, withCollection, insertCollection,
      Std.ExtTreeMap.getElem?_insert, sameTarget]

theorem foldl_withCollection (r : Registry) (cs : List NewCollection) :
    cs.foldl withCollection r =
      { r with collections := cs.foldl insertCollection r.collections } := by
  induction cs generalizing r with
  | nil => rfl
  | cons c cs ih => exact ih (r.withCollection c)

/-- Whether a collection is new to a registry or there already. -/
def Admits (r : Registry) (c : NewCollection) : Prop :=
  ∀ current, r.collection? c.target c.name = some current → current = c.reverse

/-- Whether two collections have different names or are on different kinds. -/
def Apart (c c' : NewCollection) : Prop :=
  ¬ (c.target = c'.target ∧ c.name = c'.name)

theorem Admits.withCollection {c c' : NewCollection} (admits : r.Admits c') (apart : Apart c c') :
    (r.withCollection c).Admits c' := by
  intro current found
  rw [collection?_withCollection, if_neg apart] at found
  exact admits current found

theorem collection?_withCollection_iff {c : NewCollection} (admits : r.Admits c)
    {target name : String} {reverse : ReverseReference} :
    (r.withCollection c).collection? target name = some reverse ↔
      r.collection? target name = some reverse ∨ c = ⟨target, name, reverse⟩ := by
  rw [collection?_withCollection]
  rcases c with ⟨newTarget, newName, newReverse⟩
  by_cases same : newTarget = target ∧ newName = name
  · obtain ⟨rfl, rfl⟩ := same
    rw [if_pos ⟨rfl, rfl⟩]
    constructor
    · rintro ⟨⟩
      exact .inr rfl
    · rintro (found | created)
      · rw [admits reverse found]
      · cases created
        rfl
  · rw [if_neg same]
    constructor
    · exact .inl
    · rintro (found | created)
      · exact found
      · cases created
        exact absurd ⟨rfl, rfl⟩ same

/-- Collections that the registry admits and that are apart from each other add to those that are
there. -/
theorem collection?_foldl {cs : List NewCollection} (apart : cs.Pairwise Apart)
    (admits : ∀ c ∈ cs, r.Admits c) {target name : String} {reverse : ReverseReference} :
    (cs.foldl withCollection r).collection? target name = some reverse ↔
      r.collection? target name = some reverse ∨ ⟨target, name, reverse⟩ ∈ cs := by
  induction cs generalizing r with
  | nil => simp
  | cons c cs ih =>
      obtain ⟨fresh, apart⟩ := List.pairwise_cons.mp apart
      obtain ⟨admitsFirst, admitsRest⟩ := List.forall_mem_cons.mp admits
      rw [List.foldl_cons,
        ih apart fun c' member => (admitsRest c' member).withCollection (fresh c' member),
        collection?_withCollection_iff admitsFirst, List.mem_cons, or_assoc,
        eq_comm (a := c)]

/-! ## Registering a schema -/

/-- What a schema has to keep clear of to be registered. -/
structure Clears (r : Registry) (s : Schema) : Prop where
  kind : r.kinds[s.kind]? = none ∨ r.allowRedefinition = true
  /-- Its properties are apart from the collections of other kinds on it. -/
  properties : ∀ name reverse, r.collection? s.kind name = some reverse →
    (s.property? name).isSome = true → reverse.sourceKind = s.kind
  /-- Its collections are apart from each other, from its own properties, -/
  apart : s.collections.Pairwise Apart
  own : ∀ c ∈ s.collections, c.target = s.kind → s.property? c.name = none
  /-- from the properties of the other kinds, and from the collections that are there. -/
  others : ∀ c ∈ s.collections, c.target ≠ s.kind → ∀ other, r.kinds[c.target]? = some other →
    other.property? c.name = none
  admits : ∀ c ∈ s.collections, r.Admits c

/-- A registry with one more schema and its collections. -/
def withSchema (r : Registry) (s : Schema) : Registry :=
  { r with
    collections := s.collections.foldl insertCollection r.collections
    kinds := r.kinds.insert s.kind s }

theorem checkKind_eq_ok_iff {kind : String} :
    r.checkKind kind = .ok () ↔ r.kinds[kind]? = none ∨ r.allowRedefinition = true := by
  rw [checkKind, Failure.refuse_eq_ok_iff, contains, ← Std.ExtTreeMap.isSome_getElem?_eq_contains]
  cases r.kinds[kind]? <;> cases r.allowRedefinition <;> simp [Failure.pure_eq_ok_iff]

theorem checkProperties_eq_ok_iff :
    r.checkProperties s = .ok () ↔ ∀ name reverse, r.collection? s.kind name = some reverse →
      (s.property? name).isSome = true → reverse.sourceKind = s.kind := by
  have passes : r.checkProperties s = .ok () ↔
      (r.collectionsOf s.kind).toList.find? (fun entry =>
        (s.property? entry.1).isSome && entry.2.sourceKind != s.kind) = none := by
    rw [checkProperties]
    dsimp only
    split
    · rename_i clash
      simp [clash, Failure.throw_ne_ok]
    · rename_i noClash
      simp [noClash, Failure.pure_eq_ok_iff]
  rw [passes, List.find?_eq_none]
  simp only [Prod.forall, Std.ExtTreeMap.mem_toList_iff_getElem?_eq_some, Bool.and_eq_true,
    bne_iff_ne, ne_eq, not_and, not_not]
  rfl

theorem clashesWithProperty_eq_false_iff {c : NewCollection} :
    r.clashesWithProperty s c = false ↔ (c.target = s.kind → s.property? c.name = none) ∧
      (c.target ≠ s.kind → ∀ other, r.kinds[c.target]? = some other →
        other.property? c.name = none) := by
  unfold clashesWithProperty
  by_cases own : c.target = s.kind
  · simp [own]
  · cases r.kinds[c.target]? <;> simp [own]

theorem clashesWithCollection_eq_false_iff {c : NewCollection} :
    r.clashesWithCollection c = false ↔ r.Admits c := by
  unfold clashesWithCollection Admits
  cases r.collection? c.target c.name <;> simp

theorem addPending_eq_ok_iff {pending pending' : List NewCollection} {c : NewCollection} :
    r.addPending s pending c = .ok pending' ↔
      (r.clashesWithProperty s c = false ∧ (∀ other ∈ pending, Apart other c) ∧ r.Admits c) ∧
        pending ++ [c] = pending' := by
  unfold addPending
  rw [Failure.refuse_eq_ok_iff, Failure.pure_eq_ok_iff, ← clashesWithCollection_eq_false_iff]
  simp [Apart, and_assoc]

theorem foldlM_addPending_eq_ok_iff {cs pending pending' : List NewCollection} :
    cs.foldlM (r.addPending s) pending = .ok pending' ↔
      ((∀ c ∈ cs, r.clashesWithProperty s c = false ∧ (∀ other ∈ pending, Apart other c) ∧
        r.Admits c) ∧ cs.Pairwise Apart) ∧ pending ++ cs = pending' := by
  induction cs generalizing pending with
  | nil => simp [Failure.pure_eq_ok_iff]
  | cons c cs ih =>
      simp only [List.foldlM_cons, Failure.bind_eq_ok_iff, addPending_eq_ok_iff, ih,
        List.forall_mem_cons, List.pairwise_cons]
      constructor
      · rintro ⟨_, ⟨first, rfl⟩, ⟨rest, apart⟩, rfl⟩
        simp only [List.forall_mem_append, List.forall_mem_singleton] at rest
        exact ⟨⟨⟨first, fun c' member => ⟨(rest c' member).1, (rest c' member).2.1.1,
          (rest c' member).2.2⟩⟩, fun c' member => (rest c' member).2.1.2, apart⟩,
          (List.append_assoc pending [c] cs).symm⟩
      · rintro ⟨⟨⟨first, rest⟩, fresh, apart⟩, rfl⟩
        refine ⟨_, ⟨first, rfl⟩, ⟨fun c' member => ?_, apart⟩, List.append_assoc pending [c] cs⟩
        simp only [List.forall_mem_append, List.forall_mem_singleton]
        exact ⟨(rest c' member).1, ⟨(rest c' member).2.1, fresh c' member⟩, (rest c' member).2.2⟩

/-- A schema is registered exactly when it keeps clear of what is there, and then it is added with
all of its collections. -/
theorem register_eq_ok_iff : r.register s = .ok r' ↔ r.Clears s ∧ r.withSchema s = r' := by
  have created : s.declaredProperties.filterMap (collectionOf? s.kind) = s.collections := rfl
  simp only [register, created, Failure.bind_eq_ok_iff, Failure.pure_eq_ok_iff]
  constructor
  · rintro ⟨⟨⟩, kind, ⟨⟩, properties, pending, checked, rfl⟩
    obtain ⟨⟨each, apart⟩, rfl⟩ := foldlM_addPending_eq_ok_iff.mp checked
    refine ⟨?_, rfl⟩
    exact
      { kind := checkKind_eq_ok_iff.mp kind
        properties := checkProperties_eq_ok_iff.mp properties
        apart
        own := fun c member => (clashesWithProperty_eq_false_iff.mp (each c member).1).1
        others := fun c member => (clashesWithProperty_eq_false_iff.mp (each c member).1).2
        admits := fun c member => (each c member).2.2 }
  · rintro ⟨clears, rfl⟩
    have checked : s.collections.foldlM (r.addPending s) [] = .ok s.collections := by
      refine foldlM_addPending_eq_ok_iff.mpr ⟨⟨fun c member => ⟨?_, nofun, ?_⟩, clears.apart⟩, rfl⟩
      · exact clashesWithProperty_eq_false_iff.mpr ⟨clears.own c member, clears.others c member⟩
      · exact clears.admits c member
    exact ⟨(), checkKind_eq_ok_iff.mpr clears.kind, (),
      checkProperties_eq_ok_iff.mpr clears.properties, _, checked, rfl⟩

/-- A registration adds the collections of its schema to those that are there. -/
theorem Clears.collection?_withSchema_iff (clears : r.Clears s) {target name : String}
    {reverse : ReverseReference} :
    (r.withSchema s).collection? target name = some reverse ↔
      r.collection? target name = some reverse ∨ ⟨target, name, reverse⟩ ∈ s.collections := by
  rw [← collection?_foldl clears.apart clears.admits, foldl_withCollection]
  rfl

theorem kinds_withSchema (r : Registry) (s : Schema) (kind : String) :
    (r.withSchema s).kinds[kind]? = if s.kind = kind then some s else r.kinds[kind]? := by
  rw [withSchema, Std.ExtTreeMap.getElem?_insert]
  simp

/-- A definition puts a schema together and registers it, unless it is abstract. -/
theorem define_eq_ok_iff {d : Definition} : r.define d = .ok (s, r') ↔
    d.assemble = .ok s ∧ if s.isAbstract then r = r' else r.register s = .ok r' := by
  simp only [define, Failure.bind_eq_ok_iff]
  constructor
  · rintro ⟨s', assembled, defined⟩
    split at defined
    · rename_i lent
      cases Failure.pure_eq_ok_iff.mp defined
      exact ⟨assembled, by rw [if_pos lent]⟩
    · rename_i mapped
      obtain ⟨_, registered, returned⟩ := Failure.exists_of_bind_eq_ok defined
      cases Failure.pure_eq_ok_iff.mp returned
      exact ⟨assembled, by rwa [if_neg mapped]⟩
  · rintro ⟨assembled, outcome⟩
    refine ⟨s, assembled, ?_⟩
    split at outcome
    · rename_i lent
      rw [if_pos lent, outcome]
      rfl
    · rename_i mapped
      rw [if_neg mapped, outcome]
      rfl

/-! ## Many registrations -/

/-- What a registry knows after some schemas have been registered, one after the other. -/
structure Knows (r : Registry) (schemas : List Schema) : Prop where
  /-- The collections are those of all the schemas. -/
  collections : ∀ {target name : String} {reverse : ReverseReference},
    r.collection? target name = some reverse ↔
      ∃ s ∈ schemas, ⟨target, name, reverse⟩ ∈ s.collections
  /-- The schema of a kind is the last one of that kind. -/
  kinds : ∀ kind, r.kinds[kind]? = (schemas.filter (·.kind = kind)).getLast?
  /-- Only with a collection that its own kind has created may a property share its name. -/
  own : ∀ {kind : String} {s : Schema} {name : String} {reverse : ReverseReference},
    r.kinds[kind]? = some s → r.collection? kind name = some reverse →
      (s.property? name).isSome = true → reverse.sourceKind = kind
  /-- A schema has no property that is named like a collection of its own on its kind. -/
  clear : ∀ s ∈ schemas, ∀ c ∈ s.collections, c.target = s.kind → s.property? c.name = none
  /-- A schema that cannot be redefined stays. -/
  kept : r.allowRedefinition = false → ∀ s ∈ schemas, r.kinds[s.kind]? = some s

theorem knows_empty (allow : Bool) : (empty allow).Knows [] := by
  have noCollection : ∀ target name, (empty allow).collection? target name = none := by
    intro target name
    simp [collection?, collectionsOf, empty]
  exact
    { collections := by simp [noCollection]
      kinds := by simp [empty]
      own := by simp [noCollection]
      clear := nofun
      kept := fun _ => nofun }

theorem Knows.of_kinds {schemas : List Schema} (knows : r.Knows schemas) {kind : String}
    (registered : r.kinds[kind]? = some s) : s ∈ schemas ∧ s.kind = kind := by
  rw [knows.kinds] at registered
  have last := List.mem_of_getLast? registered
  simpa using last

theorem Knows.register {schemas : List Schema} (knows : r.Knows schemas)
    (registered : r.register s = .ok r') : r'.Knows (schemas ++ [s]) := by
  obtain ⟨clears, rfl⟩ := register_eq_ok_iff.mp registered
  constructor
  case collections =>
    intro target name reverse
    rw [clears.collection?_withSchema_iff, knows.collections]
    simp [or_and_right, exists_or]
  case kinds =>
    intro kind
    rw [kinds_withSchema, knows.kinds, List.filter_append, List.getLast?_append]
    by_cases same : s.kind = kind <;> simp [same]
  case own =>
    intro kind current name reverse registered collection named
    rw [kinds_withSchema] at registered
    rw [clears.collection?_withSchema_iff] at collection
    by_cases same : s.kind = kind
    · rw [if_pos same, Option.some.injEq] at registered
      subst same registered
      rcases collection with before | created
      · exact clears.properties name reverse before named
      · obtain ⟨p, -, -, rfl⟩ := Schema.mem_collections_iff.mp created
        rfl
    · rw [if_neg same] at registered
      rcases collection with before | created
      · exact knows.own registered before named
      · have unnamed := clears.others _ created (Ne.symm same) current registered
        simp [unnamed] at named
  case clear =>
    rw [List.forall_mem_append]
    exact ⟨knows.clear, List.forall_mem_singleton.mpr clears.own⟩
  case kept =>
    intro fixed
    change r.allowRedefinition = false at fixed
    have absent : r.kinds[s.kind]? = none := clears.kind.resolve_right (by simp [fixed])
    rw [List.forall_mem_append, List.forall_mem_singleton]
    constructor
    · intro before member
      have stays := knows.kept fixed before member
      have differs : s.kind ≠ before.kind := by
        intro same
        rw [same, stays] at absent
        contradiction
      rw [kinds_withSchema, if_neg differs, stays]
    · rw [kinds_withSchema, if_pos rfl]

theorem Knows.foldlM {schemas more : List Schema} (knows : r.Knows schemas)
    (registered : more.foldlM Registry.register r = .ok r') : r'.Knows (schemas ++ more) := by
  induction more generalizing r schemas with
  | nil =>
      cases Failure.pure_eq_ok_iff.mp registered
      rwa [List.append_nil]
  | cons s more ih =>
      rw [List.foldlM_cons, Failure.bind_eq_ok_iff] at registered
      obtain ⟨next, first, registered⟩ := registered
      have knows' := ih (knows.register first) registered
      rwa [List.append_assoc] at knows'

end Registry

end EntityStore
