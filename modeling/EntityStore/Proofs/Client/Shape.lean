import EntityStore.Proofs.Client.Attempts
import EntityStore.Proofs.Model.RoundTrip
import EntityStore.Proofs.Property.Shape
import Mathlib.Logic.Relation

/-!
# The shape of records

However an instance is built, edited, put and deleted, its record has no other fields than those of
declared properties that store more than an empty list and those of its dynamic values.  No date, no
time of day, no empty list and no list inside a list is in them, and exactly the long ones are left
out of the indexes.

A record is made over the last one of the instance.  What that had for a dynamic value which is gone
is dropped where dynamic values are allowed; elsewhere there never was any.
-/

namespace EntityStore

namespace Client

variable {m m' : Model} {key : Key}

variable {σ T : Type} {c : Client σ T} {s s' : σ}

/-- A put that is answered has made the record of the instance, which takes note of it. -/
theorem recorded_of_put (answered : (c.put m).runOn s = (.ok (m', key), s')) :
    ∃ moment e, m.toEntity moment = .ok e ∧ m' = m.markSaved e key := by
  rcases Action.exists_of_runOn_bind answered with ⟨e, _, made, answered⟩
  rcases Action.exists_of_runOn_bind made with ⟨moment, _, -, made⟩
  rcases Action.exists_of_runOn_bind answered with ⟨keys, _, -, answered⟩
  refine ⟨moment, e, (Action.eq_ok_of_runOn_lift made).1, ?_⟩
  cases keys with
  | nil => cases answered
  | cons key' rest =>
      cases answered
      rfl

theorem key_of_delete (answered : (c.delete m).runOn s = (.ok m', s')) :
    ∃ key, m.key = .ok key ∧ m' = m.markDeleted key := by
  rcases Action.exists_of_runOn_bind answered with ⟨key, _, named, answered⟩
  rcases Action.exists_of_runOn_bind answered with ⟨⟨⟩, _, -, answered⟩
  cases answered
  exact ⟨key, (Action.eq_ok_of_runOn_lift named).1, rfl⟩

end Client

namespace Model

variable {m m' : Model} {e : Entity} {p : Property} {name : String} {moment : Moment} {key : Key}

/-- What an instance is like at every moment. -/
structure InOrder (m : Model) : Prop where
  defined : m.schema.Defined
  holds : m.HoldsAll m.schema
  dynamic : ∀ (name : String) (v : Value), m.dynamic[name]? = some v → v.Storable
  /-- Where dynamic values are not allowed, there are none, and none in the last record. -/
  closed : m.schema.isExpando = false → m.dynamic = ∅ ∧
    ∀ e, m.entity = some e → ∀ name, m.schema.propertyByStorageName? name = none →
      e.get? name = none

/-- What the record of an instance is like. -/
structure ShapeOf (m : Model) (moment : Moment) (e : Entity) : Prop where
  storable : ∀ (name : String) (v : Value), e.get? name = some v → v.Storable
  contains_iff : ∀ name, e.contains name = true ↔
    (∃ p ∈ m.schema.properties, p.storageName = name ∧ ∃ stored,
      p.valueForStorage (m.value p.attributeName) moment = .ok stored ∧ stored ≠ .list []) ∨
    name ∈ m.dynamic
  mem_unindexed_iff : ∀ name, name ∈ e.unindexed ↔
    (∃ p ∈ m.schema.properties, p.isIndexed = false ∧ p.storageName = name) ∨
    ∃ v, m.dynamic[name]? = some v ∧
      ∃ w : Value, w.Within v ∧ (w.type = .text ∨ w.type = .blob)

/-! ## Fields -/

/-- The field in the place of a property is a dynamic value of the name, or what the property
stores. -/
theorem InOrder.place (inOrder : m.InOrder) (recorded : m.toEntity moment = .ok e)
    (member : p ∈ m.schema.properties) :
    ∃ stored, p.valueForStorage (m.value p.attributeName) moment = .ok stored ∧
      e.get? p.storageName = (m.dynamic[p.storageName]?).or stored.field? := by
  rcases toEntity_eq_ok recorded with ⟨start, declared, -, written, -, rfl⟩
  rcases exists_of_writeProperties inOrder.defined.distinct member written with
    ⟨stored, made, placed⟩
  refine ⟨stored, made, ?_⟩
  have declares : (m.schema.propertyByStorageName? p.storageName).isSome = true :=
    Schema.propertyByStorageName?_isSome_iff.mpr ⟨p, member, rfl⟩
  cases expando : m.schema.isExpando with
  | false =>
      rw [(inOrder.closed expando).1, Std.ExtTreeMap.getElem?_empty, Option.none_or, ← placed]
      rfl
  | true =>
      calc (m.writeDynamic declared).get? p.storageName
          = (m.dynamic[p.storageName]?).or (declared.get? p.storageName) := by
            rw [get?_writeDynamic, if_pos declares]
        _ = (m.dynamic[p.storageName]?).or stored.field? := by rw [placed]

/-- Under any other name there is the dynamic value of that name, if anything. -/
theorem InOrder.foreign (inOrder : m.InOrder) (recorded : m.toEntity moment = .ok e)
    (foreign : m.schema.propertyByStorageName? name = none) : e.get? name = m.dynamic[name]? := by
  rcases toEntity_eq_ok recorded with ⟨start, declared, starts, written, -, rfl⟩
  cases expando : m.schema.isExpando with
  | false =>
      have elsewhere : ∀ p ∈ m.schema.properties, p.storageName ≠ name := by
        simpa [Schema.propertyByStorageName?] using foreign
      rcases inOrder.closed expando with ⟨noDynamic, lastClosed⟩
      have blank : start.get? name = none := by
        rw [starts]
        cases last : m.entity with
        | none => exact Std.ExtTreeMap.getElem?_empty
        | some e => exact lastClosed e last name foreign
      calc declared.get? name
          = start.get? name := get?_of_writeProperties_of_foreign elsewhere written
        _ = none := blank
        _ = m.dynamic[name]? := by rw [noDynamic, Std.ExtTreeMap.getElem?_empty]
  | true =>
      calc (m.writeDynamic declared).get? name
          = m.dynamic[name]? := by simp [get?_writeDynamic, foreign]

theorem InOrder.contains_iff (inOrder : m.InOrder) (recorded : m.toEntity moment = .ok e) :
    e.contains name = true ↔
      (∃ p ∈ m.schema.properties, p.storageName = name ∧ ∃ stored,
        p.valueForStorage (m.value p.attributeName) moment = .ok stored ∧ stored ≠ .list []) ∨
      name ∈ m.dynamic := by
  rw [Entity.contains, Std.ExtTreeMap.contains_eq_isSome_getElem?,
    Std.ExtTreeMap.mem_iff_isSome_getElem?]
  change (e.get? name).isSome = true ↔ _
  by_cases declares : ∃ p ∈ m.schema.properties, p.storageName = name
  · rcases declares with ⟨p, member, rfl⟩
    rcases inOrder.place recorded member with ⟨stored, made, placed⟩
    rw [placed, Option.isSome_or, Bool.or_eq_true, Value.field?_isSome_iff, or_comm]
    apply or_congr_left
    constructor
    · intro filled
      exact ⟨p, member, rfl, stored, made, filled⟩
    · rintro ⟨q, member', same, stored', made', filled⟩
      cases inOrder.defined.distinct.eq_of_storageName member' member same
      cases made.symm.trans made'
      exact filled
  · have foreign : m.schema.propertyByStorageName? name = none := by
      rw [← Option.not_isSome_iff_eq_none, Schema.propertyByStorageName?_isSome_iff]
      exact declares
    rw [inOrder.foreign recorded foreign]
    constructor
    · exact .inr
    · rintro (⟨p, member, same, -⟩ | dynamic)
      · exact absurd ⟨p, member, same⟩ declares
      · exact dynamic

/-! ## Indexes -/

theorem mem_foldl_insert {l : List (String × Value)} {names : Names} :
    name ∈ l.foldl (fun names entry =>
        if entry.2.isLong then names.insert entry.1 else names) names ↔
      name ∈ names ∨ ∃ v, (name, v) ∈ l ∧ v.isLong = true := by
  induction l generalizing names with
  | nil => simp
  | cons entry rest inductionHypothesis =>
      rw [List.foldl_cons, inductionHypothesis]
      cases long : entry.2.isLong <;> grind [Std.compare_eq_iff_eq]

theorem InOrder.mem_unindexedNames_iff (inOrder : m.InOrder) : name ∈ m.unindexedNames ↔
    name ∈ m.schema.unindexed ∨ ∃ v, m.dynamic[name]? = some v ∧ v.isLong = true := by
  unfold unindexedNames
  cases expando : m.schema.isExpando with
  | false => simp [(inOrder.closed expando).1]
  | true =>
      rw [if_pos rfl, Std.ExtTreeMap.foldl_eq_foldl_toList, mem_foldl_insert]
      simp only [Std.ExtTreeMap.mem_toList_iff_getElem?_eq_some]

/-! ## The record of an instance in order -/

theorem InOrder.shapeOf (inOrder : m.InOrder) (recorded : m.toEntity moment = .ok e) :
    m.ShapeOf moment e := by
  constructor
  case storable =>
    intro name v found
    cases declares : m.schema.propertyByStorageName? name with
    | none =>
        rw [inOrder.foreign recorded declares] at found
        exact inOrder.dynamic name v found
    | some p =>
        rcases Schema.propertyByStorageName?_isSome_iff.mp (by rw [declares]; rfl) with
          ⟨p, member, rfl⟩
        rcases inOrder.place recorded member with ⟨stored, made, placed⟩
        rcases Option.or_eq_some_iff.mp (placed.symm.trans found) with dynamic | ⟨-, own⟩
        · exact inOrder.dynamic _ v dynamic
        · rcases (inOrder.defined.declared p member).bound with ⟨p₀, kind, bound⟩
          have filled : stored ≠ .list [] := by
            rintro rfl
            cases own
          rw [Value.field?_of_ne filled] at own
          cases own
          exact Property.storable_of_valueForStorage bound (inOrder.holds p member) made filled
  case contains_iff => exact fun _ => inOrder.contains_iff recorded
  case mem_unindexed_iff =>
    intro name
    have unindexed : e.unindexed = m.unindexedNames := by
      rcases toEntity_eq_ok recorded with ⟨_, _, -, -, -, rfl⟩
      rfl
    rw [unindexed, inOrder.mem_unindexedNames_iff, inOrder.defined.mem_unindexed_iff]
    simp only [Value.isLong_iff]

/-! ## Changes -/

theorem InOrder.hold {v : Value} (inOrder : m.InOrder) (member : p ∈ m.schema.properties)
    (holds : p.Holds v) : (m.hold p.attributeName v).InOrder where
  defined := inOrder.defined
  holds := inOrder.holds.hold inOrder.defined.distinct member holds
  dynamic := inOrder.dynamic
  closed := inOrder.closed

theorem InOrder.edited (inOrder : m.InOrder) (edited : m.Edited m') : m'.InOrder where
  defined := by
    rw [edited.schema_eq]
    exact inOrder.defined
  holds := by
    rw [edited.schema_eq]
    exact inOrder.holds.edited inOrder.defined.distinct rfl edited
  dynamic := by
    cases edited with
    | declared => exact inOrder.dynamic
    | dynamic dynamic expando allowed =>
        intro name v found
        rcases allowed name v found with before | ⟨filled, name', checked⟩
        · exact inOrder.dynamic name v before
        · exact Value.storable_of_checkDynamic filled checked
  closed := by
    cases edited with
    | declared => exact inOrder.closed
    | dynamic dynamic expando allowed =>
        intro closed
        rw [expando] at closed
        contradiction

theorem inOrder_of_build {b : Builder} (defined : b.schema.Defined)
    (built : b.build moment = .ok m) : m.InOrder := by
  refine (Builder.invariant_of_build (P := fun m => m.schema = b.schema ∧ m.InOrder)
    ?_ ?_ ?_ built).2
  · intro m noValues noDynamic fresh
    have schemaEq := fresh.schema_eq
    refine ⟨schemaEq, ?_⟩
    exact {
      defined := schemaEq ▸ defined
      holds := by
        intro p _
        rw [value, noValues, Std.ExtTreeMap.getElem?_empty]
        exact .inr p.isEmptyValue_null
      dynamic := by
        intro name v found
        rw [noDynamic, Std.ExtTreeMap.getElem?_empty] at found
        contradiction
      closed := by
        intro _
        constructor
        · exact noDynamic
        · intro e last
          rw [fresh.entity_eq] at last
          contradiction }
  · rintro p member m v holds ⟨schemaEq, inOrder⟩
    exact ⟨schemaEq, inOrder.hold (schemaEq ▸ member) holds⟩
  · rintro m m' edited ⟨schemaEq, inOrder⟩
    exact ⟨edited.schema_eq.trans schemaEq, inOrder.edited edited⟩

/-- The fields of a record that was just written are those of properties where dynamic values are
not allowed. -/
theorem InOrder.markSaved (inOrder : m.InOrder) (recorded : m.toEntity moment = .ok e) (key : Key) :
    (m.markSaved e key).InOrder where
  defined := inOrder.defined
  holds := inOrder.holds
  dynamic := inOrder.dynamic
  closed := by
    intro closed
    have noDynamic := (inOrder.closed closed).1
    constructor
    · exact noDynamic
    · rintro _ ⟨⟩ name foreign
      calc e.get? name
          = m.dynamic[name]? := inOrder.foreign recorded foreign
        _ = none := by rw [noDynamic, Std.ExtTreeMap.getElem?_empty]

theorem InOrder.markDeleted (inOrder : m.InOrder) (key : Key) : (m.markDeleted key).InOrder where
  defined := inOrder.defined
  holds := inOrder.holds
  dynamic := inOrder.dynamic
  closed closed := ⟨(inOrder.closed closed).1, nofun⟩

/-- A change to an instance that has succeeded: an edit, or a put or deletion by any client. -/
inductive Changed : Model → Model → Prop where
  | edit {m m' : Model} (edit : Edit) (answered : edit.apply m = .ok m') : Changed m m'
  | put {m m' : Model} {σ T : Type} (c : Client σ T) {s s' : σ} {key : Key}
      (answered : (c.put m).runOn s = (.ok (m', key), s')) : Changed m m'
  | delete {m m' : Model} {σ T : Type} (c : Client σ T) {s s' : σ}
      (answered : (c.delete m).runOn s = (.ok m', s')) : Changed m m'

theorem InOrder.changed (inOrder : m.InOrder) (changed : Changed m m') : m'.InOrder := by
  cases changed with
  | edit edit answered => exact inOrder.edited (edited_of_apply answered)
  | put c answered =>
      rcases Client.recorded_of_put answered with ⟨moment, e, recorded, rfl⟩
      exact inOrder.markSaved recorded _
  | delete c answered =>
      rcases Client.key_of_delete answered with ⟨key, -, rfl⟩
      exact inOrder.markDeleted key

theorem InOrder.run (inOrder : m.InOrder) (changes : Relation.ReflTransGen Changed m m') :
    m'.InOrder := by
  induction changes with
  | refl => exact inOrder
  | tail _ change inductionHypothesis => exact inductionHypothesis.changed change

theorem Changed.schema_eq (changed : Changed m m') : m'.schema = m.schema := by
  cases changed with
  | edit edit answered => exact (edited_of_apply answered).schema_eq
  | put c answered =>
      rcases Client.recorded_of_put answered with ⟨_, _, -, rfl⟩
      rfl
  | delete c answered =>
      rcases Client.key_of_delete answered with ⟨_, -, rfl⟩
      rfl

theorem schema_of_changes (changes : Relation.ReflTransGen Changed m m') :
    m'.schema = m.schema := by
  induction changes with
  | refl => rfl
  | tail _ change inductionHypothesis => exact change.schema_eq.trans inductionHypothesis

/-- However an instance was built and has been changed since, its record is in shape. -/
theorem shapeOf_of_changes {b : Builder} {created saved : Moment} {built : Model}
    (defined : b.schema.Defined) (builds : b.build created = .ok built)
    (changes : Relation.ReflTransGen Changed built m) (recorded : m.toEntity saved = .ok e) :
    m.schema = b.schema ∧ m.ShapeOf saved e := by
  constructor
  · exact (schema_of_changes changes).trans (Builder.fresh_of_build builds).schema_eq
  · exact ((inOrder_of_build defined builds).run changes).shapeOf recorded

/-- A kind with tags and with dynamic properties. -/
def diary : Definition where
  kind := "Diary"
  declared := [("tags", { kind := .list .string })]
  isExpando := true

/-- Surroundings without schemas, at the start of the epoch. -/
def atMidnight : Surroundings :=
  ⟨.empty false, midnight, {}⟩

/-- An entry that was put with a tag and with notes has lost both and has gained pages. -/
theorem shapeOf_diary :
    ∃ schema built m e, diary.assemble = .ok schema ∧
      Builder.build { schema, name := some "first" } midnight = .ok built ∧
      Relation.ReflTransGen Changed built m ∧ m.toEntity midnight = .ok e ∧
      e.names = ["pages"] ∧ m.ShapeOf midnight e := by
  have entry : ∃ schema built m e, diary.assemble = .ok schema ∧
      Builder.build { schema, name := some "first" } midnight = .ok built ∧
      Relation.ReflTransGen Changed built m ∧ m.toEntity midnight = .ok e ∧
      e.names = ["pages"] := by
    exact ⟨_, _, _, _, rfl, rfl, (((((Relation.ReflTransGen.single
      (.edit (.set "tags" (.list [.string "new"])) rfl)).tail
      (.edit (.setDynamic "notes" (.list [.text "rain"])) rfl)).tail
      (.put atMidnight.client (s := {}) rfl)).tail
      (.edit (.set "tags" (.list [])) rfl)).tail
      (.edit (.deleteDynamic "notes") rfl)).tail
      (.edit (.setDynamic "pages" (.text "many")) rfl), rfl, by decide +kernel⟩
  rcases entry with ⟨schema, built, m, e, assembled, builds, changes, recorded, names⟩
  have inShape := shapeOf_of_changes (b := { schema, name := some "first" })
    (.assemble (d := diary) nofun assembled) builds changes recorded
  exact ⟨schema, built, m, e, assembled, builds, changes, recorded, names, inShape.2⟩

end Model

end EntityStore
