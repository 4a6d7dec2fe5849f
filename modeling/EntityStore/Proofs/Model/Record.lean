import EntityStore.Model.Record
import EntityStore.Proofs.Model.Edits
import EntityStore.Proofs.Property.Storage

/-!
# What a record holds and what is loaded from it

The record of an instance that was never written has one field for each declared property that
stores more than an empty list, and one for each dynamic value.  A dynamic value that has the
storage name of a declared property takes its place.  Loading turns each field back into a declared
or a dynamic value.
-/

namespace EntityStore

/-- The field that a stored value leaves: none for an empty list. -/
def Value.field? : Value → Option Value
  | .list [] => none
  | v => some v

theorem Value.field?_of_ne {v : Value} (written : v ≠ .list []) : v.field? = some v := by
  unfold Value.field?
  split
  · contradiction
  · rfl

theorem Value.field?_isSome_iff {v : Value} : v.field?.isSome = true ↔ v ≠ .list [] := by
  unfold Value.field?
  split
  · simp
  next written => simpa using written

/-- Dropping values by their names. -/
theorem getElem?_filter_names (fields : Fields) (keeps : String → Bool) (name : String) :
    (fields.filter fun name _ => keeps name)[name]? =
      if keeps name = true then fields[name]? else none := by
  simp only [Std.ExtTreeMap.getElem?_filter, Std.ExtTreeMap.getKey_eq, Option.pfilter_eq_filter]
  cases fields[name]? <;> simp [Option.filter]

namespace Entity

variable {e : Entity} {name name' : String} {v : Value}

theorem get?_set : (e.set name v).get? name' = if name = name' then some v else e.get? name' := by
  simp [set, get?, Std.ExtTreeMap.getElem?_insert]

theorem get?_remove : (e.remove name).get? name' = if name = name' then none else e.get? name' := by
  simp [remove, get?, Std.ExtTreeMap.getElem?_erase]

end Entity

namespace Model

variable {schema : Schema} {m : Model} {e e' : Entity} {p : Property} {name : String}
  {moment : Moment}

/-! ## Writing declared properties -/

theorem writeProperty_eq_ok (answered : m.writeProperty moment e p = .ok e') :
    ∃ stored, p.valueForStorage (m.value p.attributeName) moment = .ok stored ∧ e'.key = e.key ∧
      ∀ name, e'.get? name = if p.storageName = name then stored.field? else e.get? name := by
  obtain ⟨stored, made, answered⟩ := Failure.exists_of_bind_eq_ok answered
  refine ⟨stored, made, ?_⟩
  split at answered
  next =>
    cases Failure.pure_eq_ok_iff.mp answered
    exact ⟨rfl, fun name => Entity.get?_remove⟩
  next written =>
    cases Failure.pure_eq_ok_iff.mp answered
    refine ⟨rfl, fun name => ?_⟩
    rw [Entity.get?_set, Value.field?]
    exact fun nothing => written nothing

/-- A property's place holds what the property stores. -/
theorem exists_of_writeProperties (distinct : schema.Distinct) (member : p ∈ schema.properties)
    (answered : schema.properties.foldlM (m.writeProperty moment) e = .ok e') :
    ∃ stored, p.valueForStorage (m.value p.attributeName) moment = .ok stored ∧
      e'.get? p.storageName = stored.field? := by
  have reached : ∀ {e e' : Entity}, m.writeProperty moment e p = .ok e' →
      ∃ stored, p.valueForStorage (m.value p.attributeName) moment = .ok stored ∧
        e'.get? p.storageName = stored.field? := by
    intro e e' written
    rcases writeProperty_eq_ok written with ⟨stored, made, -, placed⟩
    exact ⟨stored, made, by rw [placed, if_pos rfl]⟩
  refine Failure.outcome_of_foldlM
    (P := fun e => ∃ stored, p.valueForStorage (m.value p.attributeName) moment = .ok stored ∧
      e.get? p.storageName = stored.field?)
    member reached ?_ answered
  intro q member' e e' before written
  by_cases same : q.storageName = p.storageName
  · cases distinct.eq_of_storageName member' member same
    exact reached written
  · rcases writeProperty_eq_ok written with ⟨_, _, _, placed⟩
    rwa [placed, if_neg same]

theorem get?_of_writeProperties (distinct : schema.Distinct) (member : p ∈ schema.properties)
    (held : p.isFilledOnWrite = false)
    (answered : schema.properties.foldlM (m.writeProperty moment) e = .ok e') :
    e'.get? p.storageName = (p.storedForm (m.value p.attributeName)).field? := by
  rcases exists_of_writeProperties distinct member answered with ⟨stored, made, placed⟩
  rw [placed, Property.eq_storedForm_of_valueForStorage held made]

/-- Fields under other names stay as they are. -/
theorem get?_of_writeProperties_of_foreign
    (foreign : ∀ p ∈ schema.properties, p.storageName ≠ name)
    (answered : schema.properties.foldlM (m.writeProperty moment) e = .ok e') :
    e'.get? name = e.get? name := by
  refine Failure.invariant_of_foldlM (P := fun e' => e'.get? name = e.get? name) ?_ rfl answered
  intro p member e' e'' before written
  rcases writeProperty_eq_ok written with ⟨_, _, _, placed⟩
  rw [placed, if_neg (foreign p member), before]

theorem key_of_writeProperties
    (answered : schema.properties.foldlM (m.writeProperty moment) e = .ok e') : e'.key = e.key := by
  refine Failure.invariant_of_foldlM (P := fun e' => e'.key = e.key) ?_ rfl answered
  intro p _ e' e'' before written
  obtain ⟨_, _, kept, _⟩ := writeProperty_eq_ok written
  rw [kept, before]

/-! ## Writing dynamic values -/

/-- Dynamic values come after the declared ones and win, and what belongs to nothing is dropped. -/
theorem get?_writeDynamic : (m.writeDynamic e).get? name =
    (m.dynamic[name]?).or
      (if (m.schema.propertyByStorageName? name).isSome then e.get? name else none) := by
  have placed : (m.dynamic.foldl (fun e name v => e.set name v) e).get? name =
      (m.dynamic[name]?).or (e.get? name) := by
    rw [Std.ExtTreeMap.foldl_eq_foldl_toList]
    cases found : m.dynamic[name]? with
    | some v =>
      refine Failure.outcome_of_foldl (P := fun e : Entity => e.get? name = some v)
        (Std.ExtTreeMap.mem_toList_iff_getElem?_eq_some.mpr found)
        (fun e => by rw [Entity.get?_set, if_pos rfl]) ?_
      rintro ⟨name', v'⟩ member e before
      rw [Entity.get?_set]
      split
      next same =>
        obtain rfl : name' = name := same
        rw [Std.ExtTreeMap.mem_toList_iff_getElem?_eq_some, found] at member
        exact member.symm
      · exact before
    | none =>
      refine List.foldlRecOn (motive := fun e' : Entity => e'.get? name = e.get? name) _ _ rfl ?_
      rintro e' before ⟨name', v'⟩ member
      rw [Entity.get?_set, if_neg, before]
      rintro rfl
      rw [Std.ExtTreeMap.mem_toList_iff_getElem?_eq_some, found] at member
      contradiction
  unfold Entity.get? at placed
  rw [writeDynamic, Entity.get?, getElem?_filter_names, placed,
    Std.ExtTreeMap.contains_eq_isSome_getElem?]
  cases m.dynamic[name]? <;> simp [Entity.get?]

theorem key_writeDynamic : (m.writeDynamic e).key = e.key := by
  rw [writeDynamic, Std.ExtTreeMap.foldl_eq_foldl_toList]
  exact List.foldlRecOn (motive := fun e' : Entity => e'.key = e.key) _ _ rfl
    fun e' before _ _ => before

/-! ## The record of an instance -/

/-- Writing starts from the last record of the instance, or from an empty one under its key. -/
theorem toEntity_eq_ok (recorded : m.toEntity moment = .ok e) :
    ∃ start declared, start = m.entity.getD { key := start.key } ∧
      m.schema.properties.foldlM (m.writeProperty moment) start = .ok declared ∧
      m.writeKey = .ok declared.key ∧
      e = { (if m.schema.isExpando = true then m.writeDynamic declared else declared) with
        unindexed := m.unindexedNames } := by
  cases last : m.entity with
  | some before =>
    simp only [toEntity, last, Failure.bind_eq_ok_iff, Failure.pure_eq_ok_iff] at recorded
    obtain ⟨start, rfl, declared, written, rfl⟩ := recorded
    refine ⟨_, declared, rfl, written, ?_, rfl⟩
    simp only [key_of_writeProperties written, writeKey, last]
    rfl
  | none =>
    simp only [toEntity, last, Failure.bind_eq_ok_iff, Failure.map_eq_ok_iff,
      Failure.pure_eq_ok_iff] at recorded
    obtain ⟨start, ⟨key, keyed, rfl⟩, declared, written, rfl⟩ := recorded
    refine ⟨_, declared, rfl, written, ?_, rfl⟩
    rw [key_of_writeProperties written, keyed]

theorem writeKey_of_toEntity (recorded : m.toEntity moment = .ok e) : m.writeKey = .ok e.key := by
  obtain ⟨_, declared, -, -, keyed, rfl⟩ := toEntity_eq_ok recorded
  split
  · exact keyed.trans (congrArg _ key_writeDynamic.symm)
  · exact keyed

/-- What the record of an instance holds that was never written before, or whose kind is closed. -/
structure RecordOf (schema : Schema) (m : Model) (e : Entity) : Prop where
  kind_eq : e.kind = schema.kind
  /-- Declared values are in the places of their properties, unless a dynamic one took the place. -/
  place_eq : ∀ p ∈ schema.properties, p.isFilledOnWrite = false →
    (schema.isExpando = true → p.storageName ∉ m.dynamic) →
      e.get? p.storageName = (p.storedForm (m.value p.attributeName)).field?
  /-- Dynamic values are under their own names. -/
  dynamic_eq : schema.isExpando = true → ∀ name,
    schema.propertyByStorageName? name = none → e.get? name = m.dynamic[name]?

/-- The record of an instance of a closed kind holds what the instance does, however often the
instance has been written before. -/
theorem recordOf_of_closed (distinct : m.schema.Distinct) (closed : m.schema.isExpando = false)
    (kindEq : e.kind = m.schema.kind) (recorded : m.toEntity moment = .ok e) :
    m.RecordOf m.schema e ∧ e.unindexed = m.schema.unindexed := by
  obtain ⟨_, declared, -, written, -, rfl⟩ := toEntity_eq_ok recorded
  simp only [closed, unindexedNames] at kindEq ⊢
  refine ⟨⟨kindEq, fun p member held _ => ?_, ?_⟩, rfl⟩
  · have place := get?_of_writeProperties distinct member held written
    exact place
  · exact fun dynamic => absurd (closed.symm.trans dynamic) nofun

theorem Fresh.recordOf {b : Builder} (distinct : b.schema.Distinct) (fresh : m.Fresh b)
    (recorded : m.toEntity moment = .ok e) : m.RecordOf b.schema e := by
  have kindEq : e.kind = b.schema.kind :=
    Builder.kind_of_writeKey fresh (writeKey_of_toEntity recorded)
  rw [← fresh.schema_eq] at distinct kindEq ⊢
  cases expando : m.schema.isExpando with
  | false => exact (recordOf_of_closed distinct expando kindEq recorded).1
  | true =>
    obtain ⟨_, declared, -, written, -, rfl⟩ := toEntity_eq_ok recorded
    simp only [expando] at kindEq ⊢
    refine ⟨kindEq, fun p member held free => ?_, fun _ name foreign => ?_⟩
    · have declares : (m.schema.propertyByStorageName? p.storageName).isSome = true :=
        Schema.propertyByStorageName?_isSome_iff.mpr ⟨p, member, rfl⟩
      have absent : m.dynamic[p.storageName]? = none :=
        Std.ExtTreeMap.getElem?_eq_none (free expando)
      calc (m.writeDynamic declared).get? p.storageName
          = declared.get? p.storageName := by simp [get?_writeDynamic, absent, declares]
        _ = (p.storedForm (m.value p.attributeName)).field? :=
            get?_of_writeProperties distinct member held written
    · calc (m.writeDynamic declared).get? name
          = m.dynamic[name]? := by simp [get?_writeDynamic, foreign]

/-! ## Loading -/

theorem value_of_loaded {values : Fields} {load : Property → Value} (distinct : schema.Distinct)
    (member : p ∈ schema.properties) :
    (schema.properties.foldl (fun values p => values.insert p.attributeName (load p))
      values)[p.attributeName]? = some (load p) := by
  refine Failure.outcome_of_foldl
    (P := fun values : Fields => values[p.attributeName]? = some (load p)) member (by simp) ?_
  intro q member' values before
  rw [Std.ExtTreeMap.getElem?_insert]
  split
  next same =>
    rw [Std.compare_eq_iff_eq] at same
    rw [distinct.eq_of_attributeName member' member same]
  · exact before

/-- A record of the schema's kind always loads. -/
theorem fromEntity_eq_ok (distinct : schema.Distinct) (kind : e.kind = schema.kind)
    (moment : Moment) :
    ∃ m, fromEntity schema e moment = .ok m ∧
      (∀ p ∈ schema.properties, m.value p.attributeName = loadedValue p e moment) ∧
      (schema.isExpando = true → ∀ name, m.dynamic[name]? =
        if (schema.propertyByStorageName? name).isNone = true then e.get? name else none) := by
  simp only [fromEntity, kind, ne_eq, not_true_eq_false, ↓reduceIte]
  refine ⟨_, rfl, fun p member => ?_, fun expando name => ?_⟩
  · rw [value, value_of_loaded distinct member, Option.getD_some]
  · simp only [expando, ↓reduceIte]
    exact getElem?_filter_names e.fields _ name

/-- What leaves a field loads as what was held. -/
theorem loadedValue_of_written {v : Value} (holds : p.Holds v) (written : p.storedForm v ≠ .list [])
    (place : e.get? p.storageName = (p.storedForm v).field?) : loadedValue p e moment = v := by
  simp only [loadedValue, place, Value.field?_of_ne written,
    Property.valueFromStorage_storedForm holds written]
  split
  next valid validated => exact holds.validate_eq validated
  · rfl

/-- What leaves no field loads as the items that are declared to start with. -/
theorem loadedValue_of_missing (place : e.get? p.storageName = none) :
    loadedValue p e moment =
      p.valueFromStorage (p.defaultValue { moment with user := none }) := by
  simp only [loadedValue, place]

/-- A property whose place holds its stored form loads as what was held, unless that was an empty
list where items are declared to start with, or no list at all. -/
theorem loadedValue_eq_iff {v : Value} (holds : p.Holds v)
    (place : e.get? p.storageName = (p.storedForm v).field?) :
    loadedValue p e moment = v ↔
      (p.kind.isList = true → v ≠ .null ∧ (v = .list [] → p.StartsEmpty)) := by
  have nil_iff := Property.storedForm_eq_nil_iff holds
  by_cases nothing : p.storedForm v = .list []
  · obtain ⟨isList, missing⟩ := nil_iff.mp nothing
    obtain ⟨item, kind⟩ := PropertyKind.isList_eq_true_iff.mp isList
    rw [nothing] at place
    rw [loadedValue_of_missing place]
    rcases missing with rfl | rfl
    · simp [isList, Property.valueFromStorage_ne_null kind]
    · simp [isList, Property.valueFromStorage_defaultValue_eq_nil_iff kind]
  · simp only [loadedValue_of_written holds nothing place, true_iff]
    intro isList
    exact ⟨fun null => nothing (nil_iff.mpr ⟨isList, .inl null⟩),
      fun empty => absurd (nil_iff.mpr ⟨isList, .inr empty⟩) nothing⟩

end Model

end EntityStore
