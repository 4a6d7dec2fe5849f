import EntityStore.Proofs.Schema.Names
import Mathlib.Data.List.Induction

/-!
# Indexes of a schema

A schema can be put together in one pass over its bases and its own properties that keeps two
indexes beside the list of properties: the place of every attribute, and the place of every storage
name.  Such a pass tells by an index what is there already, and it reads the list at the places of
the index without looking how far the list goes.  It comes to what `Definition.assemble` comes to,
never reads outside of the list, and its indexes find what a search of the list finds.
-/

namespace EntityStore

/-- An index: the places of names in a list. -/
abbrev Places := Std.ExtTreeMap String Nat

namespace Places

variable {properties : List Property} {nameOf : Property → String} {name : String}

/-- The index of some properties by one of their names. -/
def of (nameOf : Property → String) (properties : List Property) : Places :=
  properties.zipIdx.foldl (fun places (p, place) => places.insert (nameOf p) place) ∅

/-- What a list has at the place of a name, if the name has a place.  There is no answer at all if
the list does not go as far. -/
def read (places : Places) (properties : List Property) (name : String) :
    Option (Option Property) :=
  places[name]?.mapM fun place => properties[place]?

theorem of_append_singleton (nameOf : Property → String) (properties : List Property)
    (p : Property) :
    of nameOf (properties ++ [p]) = (of nameOf properties).insert (nameOf p) properties.length := by
  simp [of, List.zipIdx_append]

theorem contains_of (nameOf : Property → String) (properties : List Property) (name : String) :
    (of nameOf properties).contains name = properties.any fun p => nameOf p = name := by
  induction properties using List.reverseRecOn with
  | nil => simp [of]
  | append_singleton properties p inductionHypothesis =>
      rw [of_append_singleton, Std.ExtTreeMap.contains_insert, inductionHypothesis,
        List.any_append, Bool.or_comm]
      simp [Bool.beq_eq_decide_eq]

/-- An index of distinct names has exactly their places. -/
theorem getElem?_of_iff (distinct : (properties.map nameOf).Nodup) {place : Nat} :
    (of nameOf properties)[name]? = some place ↔
      ∃ p, properties[place]? = some p ∧ nameOf p = name := by
  induction properties using List.reverseRecOn with
  | nil => simp [of]
  | append_singleton properties p inductionHypothesis =>
      rw [List.map_append, List.nodup_append] at distinct
      obtain ⟨distinct, -, fresh⟩ := distinct
      have places : (∃ q, (properties ++ [p])[place]? = some q ∧ nameOf q = name) ↔
          (∃ q, properties[place]? = some q ∧ nameOf q = name) ∨
            properties.length = place ∧ nameOf p = name := by
        simp only [← List.mem_zipIdx_iff_getElem? (x := (_, place)), List.zipIdx_append,
          List.mem_append, List.zipIdx_singleton, List.mem_singleton, Prod.mk.injEq, Nat.zero_add,
          or_and_right, exists_or, and_assoc, exists_eq_left, eq_comm (b := properties.length)]
      rw [of_append_singleton, Std.ExtTreeMap.getElem?_insert, places,
        ← inductionHypothesis distinct]
      by_cases last : nameOf p = name
      · have unplaced : (of nameOf properties)[name]? ≠ some place := by
          intro found
          obtain ⟨q, there, same⟩ := (inductionHypothesis distinct).mp found
          have member := List.mem_map_of_mem (f := nameOf) (List.mem_of_getElem? there)
          exact fresh (nameOf q) member (nameOf p) (by simp) (same.trans last.symm)
        simp [last, unplaced]
      · simp [last]

/-- At the place of a name the list has what a search for the name finds, and the list always goes
as far. -/
theorem read_of (distinct : (properties.map nameOf).Nodup) (name : String) :
    (of nameOf properties).read properties name =
      some (properties.find? fun p => nameOf p = name) := by
  cases located : (of nameOf properties)[name]? with
  | none =>
      have absent : properties.find? (fun p => nameOf p = name) = none := by
        rw [List.find?_eq_none]
        intro p member named
        obtain ⟨place, there⟩ := List.getElem?_of_mem member
        rw [(getElem?_of_iff distinct).mpr ⟨p, there, by simpa using named⟩] at located
        contradiction
      rw [read, located, absent]
      rfl
  | some place =>
      obtain ⟨p, there, named⟩ := (getElem?_of_iff distinct).mp located
      have found := (Schema.find?_eq_some_iff_of_nodup distinct).mpr
        ⟨List.mem_of_getElem? there, named⟩
      rw [read, located]
      change properties[place]?.map some = _
      rw [there, found]
      rfl

end Places

/-! ## Schemas with indexes -/

/-- A schema with the places of its attributes and of its storage names. -/
structure IndexedSchema where
  schema : Schema
  attributes : Places
  slots : Places

/-- Whether the indexes have exactly the places of the names that there are, and so lead to what
searches find. -/
structure IndexedSchema.Exact (x : IndexedSchema) : Prop where
  attributes_iff : ∀ (attr : String) (place : Nat), x.attributes[attr]? = some place ↔
    ∃ p, x.schema.properties[place]? = some p ∧ p.attributeName = attr
  slots_iff : ∀ (name : String) (place : Nat), x.slots[name]? = some place ↔
    ∃ p, x.schema.properties[place]? = some p ∧ p.storageName = name
  read_attributes : ∀ attr,
    x.attributes.read x.schema.properties attr = some (x.schema.property? attr)
  read_slots : ∀ name,
    x.slots.read x.schema.properties name = some (x.schema.propertyByStorageName? name)

namespace Schema

/-- A schema with its indexes. -/
def indexed (s : Schema) : IndexedSchema where
  schema := s
  attributes := .of (·.attributeName) s.properties
  slots := .of (·.storageName) s.properties

theorem Distinct.exact_indexed {s : Schema} (distinct : s.Distinct) : s.indexed.Exact where
  attributes_iff _ _ := Places.getElem?_of_iff distinct.attributes
  slots_iff _ _ := Places.getElem?_of_iff distinct.slots
  read_attributes := Places.read_of distinct.attributes
  read_slots := Places.read_of distinct.slots

end Schema

/-! ## The pass -/

/-- A computation that may fail, and that stops without any answer where it reads a list at a place
that the list does not have. -/
abbrev Pass := ExceptT Failure Option

/-- What a pass has gathered so far. -/
structure Draft where
  properties : List Property := []
  /-- The places of the attributes. -/
  places : Places := ∅
  declared : List String := []
  ancestry : List String := []
  isExpando : Bool

namespace Draft

/-- Adds a property at the end. -/
def push (draft : Draft) (attr : String) (p : Property) : Draft :=
  { draft with
    properties := draft.properties ++ [p]
    places := draft.places.insert attr draft.properties.length }

/-- Adds one inherited property.  What is at the place of its attribute, if that has a place, must
come from the same declaration. -/
def inherit (draft : Draft) (p : Property) : Pass Draft := do
  match ← draft.places.read draft.properties p.attributeName with
  | some q =>
    if q.ownerKind? = p.ownerKind? then return draft
    else throw (.inheritedTwice p.attributeName (q.ownerKind?.getD "") (p.ownerKind?.getD ""))
  | none => return draft.push p.attributeName p

/-- Notes the kinds of a base. -/
def note (draft : Draft) (base : Schema) : Draft :=
  { draft with
    ancestry := base.lineage.foldl Definition.addKind draft.ancestry
    isExpando := draft.isExpando || base.isExpando }

/-- Takes over what a base has. -/
def extend (draft : Draft) (base : Schema) : Pass Draft :=
  base.properties.foldlM inherit (draft.note base)

/-- Binds one declared property and adds it. -/
def declare (kind : String) (draft : Draft) (declared : String × Property) : Pass Draft := do
  let (attr, p) := declared
  Schema.checkName attr
  if draft.places.contains attr then throw (.declaredTwice attr)
  let bound ← p.bind kind attr
  return { draft.push attr bound with declared := draft.declared ++ [attr] }

/-- Notes the place of one storage name, which must not have a place yet. -/
def noteSlot (kind : String) (slots : Places) (next : Property × Nat) : Pass Places :=
  let (p, place) := next
  if slots.contains p.storageName then throw (.storageNameTwice p.storageName kind)
  else return slots.insert p.storageName place

end Draft

/-- Puts a schema together along with its indexes. -/
def Definition.assembleIndexed (d : Definition) : Pass IndexedSchema := do
  if d.kind.isEmpty then throw .emptySchemaKind
  let inherited ← d.bases.foldlM Draft.extend { isExpando := d.isExpando }
  let draft ← d.declared.foldlM (Draft.declare d.kind) inherited
  let slots ← draft.properties.zipIdx.foldlM (Draft.noteSlot d.kind) ∅
  return {
    schema := {
      kind := d.kind
      properties := draft.properties
      declared := draft.declared
      unindexed := .ofList ((draft.properties.filter (!·.isIndexed)).map (·.storageName))
      ancestry := draft.ancestry
      isExpando := draft.isExpando
      isAbstract := d.isAbstract }
    attributes := draft.places
    slots }

/-! ## What the pass comes to -/

/-- A pass that has not read anything outside of a list. -/
def Pass.ofExcept {α : Type} (x : Except Failure α) : Pass α :=
  ExceptT.mk (some x)

namespace Draft

open Definition (attributes inheritProperty declareProperty checkStorageNames)

variable (draft : Draft) {properties : List Property} {p : Property} {kind : String}

/-- A draft with some properties and their index. -/
def having (properties : List Property) : Draft :=
  { draft with properties, places := .of (·.attributeName) properties }

theorem push_having (properties : List Property) (p : Property) :
    (draft.having properties).push p.attributeName p = draft.having (properties ++ [p]) := by
  simp [having, push, Places.of_append_singleton]

/-- The kinds that a pass has noted are those of all bases. -/
theorem foldl_note (bases : List Schema) :
    bases.foldl note draft =
      { draft with
        ancestry := (bases.flatMap Schema.lineage).foldl Definition.addKind draft.ancestry
        isExpando := draft.isExpando || bases.any (·.isExpando) } := by
  induction bases generalizing draft with
  | nil => simp
  | cons base bases inductionHypothesis =>
      rw [List.foldl_cons, inductionHypothesis, List.flatMap_cons, List.foldl_append,
        List.any_cons, ← Bool.or_assoc]
      rfl

/-! Each step does to a draft what the plain step does to its properties. -/

theorem inherit_having (distinct : (attributes properties).Nodup) :
    (draft.having properties).inherit p =
      .ofExcept ((inheritProperty properties p).map draft.having) := by
  have reads : (draft.having properties).places.read (draft.having properties).properties
      p.attributeName = some (properties.find? fun q => q.attributeName = p.attributeName) :=
    Places.read_of distinct p.attributeName
  rw [inherit, reads, inheritProperty]
  cases properties.find? fun q => q.attributeName = p.attributeName with
  | none =>
      change Pass.ofExcept (.ok ((draft.having properties).push p.attributeName p)) = _
      rw [push_having]
      rfl
  | some q =>
      change (if q.ownerKind? = p.ownerKind? then _ else _) =
        Pass.ofExcept (Except.map _ (if _ then _ else _))
      split <;> rfl

theorem foldlM_inherit_having {more : List Property} (distinct : (attributes properties).Nodup) :
    more.foldlM inherit (draft.having properties) =
      .ofExcept ((more.foldlM inheritProperty properties).map draft.having) := by
  induction more generalizing properties with
  | nil => rfl
  | cons p more inductionHypothesis =>
      rw [List.foldlM_cons, List.foldlM_cons, inherit_having draft distinct]
      cases inherited : inheritProperty properties p with
      | error cause => rfl
      | ok next => exact inductionHypothesis (Definition.nodup_inheritProperty distinct inherited)

theorem extend_having {base : Schema} (distinct : (attributes properties).Nodup) :
    (draft.having properties).extend base =
      .ofExcept ((base.properties.foldlM inheritProperty properties).map
        (draft.note base).having) :=
  foldlM_inherit_having (draft.note base) distinct

theorem foldlM_extend_having {bases : List Schema} (distinct : (attributes properties).Nodup) :
    bases.foldlM extend (draft.having properties) =
      .ofExcept (((bases.flatMap (·.properties)).foldlM inheritProperty properties).map
        (bases.foldl note draft).having) := by
  induction bases generalizing draft properties with
  | nil => rfl
  | cons base bases inductionHypothesis =>
      rw [List.foldlM_cons, extend_having draft distinct, List.flatMap_cons, List.foldlM_append]
      cases inherited : base.properties.foldlM inheritProperty properties with
      | error cause => rfl
      | ok next =>
          exact inductionHypothesis (draft.note base)
            (Definition.nodup_foldlM_inheritProperty distinct inherited)

theorem declare_having (declared : String × Property) :
    (draft.having properties).declare kind declared =
      .ofExcept ((declareProperty kind properties declared).map
        { draft with declared := draft.declared ++ [declared.1] }.having) := by
  obtain ⟨attr, p⟩ := declared
  have known : (draft.having properties).places.contains attr =
      properties.any fun q => q.attributeName = attr :=
    Places.contains_of _ properties attr
  rw [declare, declareProperty]
  cases Schema.checkName attr with
  | error cause => rfl
  | ok =>
      change (if (draft.having properties).places.contains attr then _ else _) =
        Pass.ofExcept (Except.map _ (if _ then _ else _))
      rw [known]
      split
      · rfl
      · cases answered : p.bind kind attr with
        | error cause => rfl
        | ok bound =>
            cases Definition.attributeName_bind answered
            change Pass.ofExcept (.ok
              { (draft.having properties).push bound.attributeName bound with
                declared := draft.declared ++ [bound.attributeName] }) = _
            rw [push_having]
            rfl

theorem foldlM_declare_having (declared : List (String × Property)) :
    declared.foldlM (declare kind) (draft.having properties) =
      .ofExcept ((declared.foldlM (declareProperty kind) properties).map
        { draft with declared := draft.declared ++ declared.map Prod.fst }.having) := by
  induction declared generalizing draft properties with
  | nil =>
      rw [List.map_nil, List.append_nil]
      rfl
  | cons first rest inductionHypothesis =>
      have names : draft.declared ++ (first :: rest).map Prod.fst =
          (draft.declared ++ [first.1]) ++ rest.map Prod.fst := by
        simp
      rw [List.foldlM_cons, List.foldlM_cons, declare_having, names]
      cases declareProperty kind properties first with
      | error cause => rfl
      | ok next => exact inductionHypothesis { draft with declared := draft.declared ++ [first.1] }

/-- A storage name has a place already exactly when it was seen before. -/
theorem foldlM_noteSlot (before : List Property) {rest : List Property} {seen : List String}
    (known : ∀ name, seen.contains name = before.any fun p => p.storageName = name) :
    (rest.zipIdx before.length).foldlM (noteSlot kind) (.of (·.storageName) before) =
      .ofExcept ((checkStorageNames kind seen rest).map
        fun _ => .of (·.storageName) (before ++ rest)) := by
  induction rest generalizing before seen with
  | nil =>
      rw [List.append_nil]
      rfl
  | cons p rest inductionHypothesis =>
      rw [List.zipIdx_cons, List.foldlM_cons, noteSlot, Places.contains_of, ← known,
        checkStorageNames]
      split
      · rfl
      · have known' : ∀ name, (p.storageName :: seen).contains name =
            (before ++ [p]).any fun p => p.storageName = name := by
          intro name
          rw [List.contains_cons, known, List.any_append, Bool.or_comm]
          simp [Bool.beq_eq_decide_eq, eq_comm]
        have noted := inductionHypothesis (before ++ [p]) known'
        rw [List.length_append, List.append_assoc, Places.of_append_singleton] at noted
        exact noted

end Draft

namespace Definition

/-- The pass reads nothing outside of a list.  It fails as `assemble` does, and otherwise comes to
the same schema, with an index of its attributes and one of its storage names. -/
theorem assembleIndexed_eq (d : Definition) :
    d.assembleIndexed = .ofExcept (d.assemble.map Schema.indexed) := by
  have inherits : d.bases.foldlM Draft.extend { isExpando := d.isExpando } =
      .ofExcept ((inheritedProperties d.bases).map
        (d.bases.foldl Draft.note { isExpando := d.isExpando }).having) :=
    Draft.foldlM_extend_having { isExpando := d.isExpando } List.nodup_nil
  rw [assembleIndexed, assemble]
  split
  · rfl
  · rw [inherits, Draft.foldl_note]
    cases inheritedProperties d.bases with
    | error cause => rfl
    | ok inherited =>
        change (d.declared.foldlM (Draft.declare d.kind) (Draft.having _ inherited) >>= _) =
          Pass.ofExcept
            (Except.map _ (d.declared.foldlM (declareProperty d.kind) inherited >>= _))
        rw [Draft.foldlM_declare_having]
        cases d.declared.foldlM (declareProperty d.kind) inherited with
        | error cause => rfl
        | ok properties =>
            have notes : properties.zipIdx.foldlM (Draft.noteSlot d.kind) ∅ =
                .ofExcept ((checkStorageNames d.kind [] properties).map
                  fun _ => .of (·.storageName) properties) :=
              Draft.foldlM_noteSlot [] (by simp)
            change (properties.zipIdx.foldlM (Draft.noteSlot d.kind) ∅ >>= _) =
              Pass.ofExcept (Except.map _ (checkStorageNames d.kind [] properties >>= _))
            rw [notes]
            cases checkStorageNames d.kind [] properties with
            | error cause => rfl
            | ok => rfl

end Definition

end EntityStore
