import EntityStore.Proofs.Model.RoundTrip

/-!
# Saving what was loaded

An instance that was loaded remembers its record, and assignments leave it alone.  Writing a closed
kind starts from that record and only touches the places of the declared properties, so the fields
of older versions of the schema are kept.  But the names that are not indexed are those of the
schema and nothing else: whatever a field of an older version is, it is indexed from then on, even
if it is a long text.
-/

namespace EntityStore

/-- Whether a record still has the fields of another that no property of a schema declares, with
their values, and indexed as they were. -/
def Schema.KeepsForeign (schema : Schema) (e e' : Entity) : Prop :=
  ∀ name v, schema.propertyByStorageName? name = none → e.get? name = some v →
    e'.get? name = some v ∧ e'.isIndexed name = e.isIndexed name

/-- Whether every text and every blob in a record is left out of the indexes. -/
def Entity.MarksLong (e : Entity) : Prop :=
  ∀ name v, e.get? name = some v → v.type = .text ∨ v.type = .blob → e.isIndexed name = false

theorem Schema.storageName_ne_of_foreign {schema : Schema} {name : String}
    (foreign : schema.propertyByStorageName? name = none) :
    ∀ p ∈ schema.properties, p.storageName ≠ name := by
  intro p member same
  have declares := Schema.propertyByStorageName?_isSome_iff.mpr ⟨p, member, same⟩
  rw [foreign] at declares
  contradiction

/-- An assignment to a property, through the instance or by the property itself, which does not ask
the instance. -/
inductive Assignment where
  | edit (edit : Edit)
  | assign (p : Property) (v : Value)

/-- Makes the assignment on an instance. -/
def Assignment.apply (m : Model) : Assignment → Except Failure Model
  | .edit change => change.apply m
  | .assign p v => m.assign p v

namespace Model

variable {schema : Schema} {m₀ m : Model} {assignments : List Assignment} {e e' : Entity}
  {loaded saved : Moment}

/-- A loaded instance remembers its record. -/
theorem remembered_of_fromEntity (stored : e.key.hasIdentifier = true)
    (loads : fromEntity schema e loaded = .ok m₀) : m₀.schema = schema ∧ m₀.entity = some e := by
  simp only [fromEntity, Failure.guard_eq_ok_iff, Failure.pure_eq_ok_iff] at loads
  obtain ⟨-, rfl⟩ := loads
  exact ⟨rfl, if_pos stored⟩

theorem remembered_of_apply {m' : Model} {assignment : Assignment}
    (answered : assignment.apply m = .ok m') : m'.schema = m.schema ∧ m'.entity = m.entity := by
  cases assignment with
  | edit change =>
      have edited : m.Edited m' := edited_of_apply answered
      exact ⟨edited.schema_eq, edited.entity_eq⟩
  | assign p v =>
      obtain ⟨valid, -, held⟩ := Failure.exists_of_bind_eq_ok answered
      cases Failure.pure_eq_ok_iff.mp held
      exact ⟨rfl, rfl⟩

/-- Assignments leave the record alone. -/
theorem remembered_of_assignments (assigned : assignments.foldlM Assignment.apply m₀ = .ok m)
    (remembered : m₀.schema = schema ∧ m₀.entity = some e) :
    m.schema = schema ∧ m.entity = some e := by
  refine Failure.invariant_of_foldlM (P := fun m : Model => m.schema = schema ∧ m.entity = some e)
    ?_ remembered assigned
  intro assignment _ before after kept answered
  obtain ⟨sameSchema, sameRecord⟩ := remembered_of_apply answered
  exact ⟨sameSchema.trans kept.1, sameRecord.trans kept.2⟩

/-- The record of an instance that was written before differs from the last one in the places of the
declared properties, and in what is indexed. -/
theorem toEntity_of_remembered (closed : m.schema.isExpando = false)
    (remembered : m.entity = some e) (recorded : m.toEntity saved = .ok e') :
    e'.key = e.key ∧ e'.unindexed = m.schema.unindexed ∧
      ∀ name, m.schema.propertyByStorageName? name = none → e'.get? name = e.get? name := by
  obtain ⟨start, declared, startEq, written, -, rfl⟩ := toEntity_eq_ok recorded
  rw [remembered, Option.getD_some] at startEq
  subst startEq
  simp only [closed, unindexedNames, Bool.false_eq_true, if_false]
  refine ⟨key_of_writeProperties written, trivial, fun name foreign => ?_⟩
  have kept : declared.get? name = start.get? name :=
    get?_of_writeProperties_of_foreign (Schema.storageName_ne_of_foreign foreign) written
  exact kept

end Model

/-- The names that are not indexed in a record that is marked by its schema. -/
theorem Schema.Defined.isIndexed_eq_false_iff {schema : Schema} (defined : schema.Defined)
    {e : Entity} (marked : e.unindexed = schema.unindexed) {name : String} :
    e.isIndexed name = false ↔
      ∃ p ∈ schema.properties, p.isIndexed = false ∧ p.storageName = name := by
  rw [Entity.isIndexed, marked, ← defined.mem_unindexed_iff]
  simp

namespace Model

variable {schema : Schema} {m₀ m : Model} {assignments : List Assignment} {e e' : Entity}
  {loaded saved : Moment}

/-- A record that is loaded into a closed kind, changed by assignments and written again has the
values of its foreign fields, and all of them are indexed.  So it keeps these fields exactly if all
of them were indexed already, which a long one is not. -/
theorem toEntity_of_loaded (defined : schema.Defined) (closed : schema.isExpando = false)
    (stored : e.key.hasIdentifier = true) (long : e.MarksLong)
    (loads : fromEntity schema e loaded = .ok m₀)
    (assigned : assignments.foldlM Assignment.apply m₀ = .ok m)
    (recorded : m.toEntity saved = .ok e') :
    e'.key = e.key ∧
      (∀ name, schema.propertyByStorageName? name = none →
        e'.get? name = e.get? name ∧ e'.isIndexed name = true) ∧
      (∀ name, e'.isIndexed name = false ↔
        ∃ p ∈ schema.properties, p.isIndexed = false ∧ p.storageName = name) ∧
      (schema.KeepsForeign e e' ↔ ∀ name v, schema.propertyByStorageName? name = none →
        e.get? name = some v → (v.type ≠ .text ∧ v.type ≠ .blob) ∧ e.isIndexed name = true) := by
  obtain ⟨rfl, remembered⟩ :=
    remembered_of_assignments assigned (remembered_of_fromEntity stored loads)
  obtain ⟨sameKey, marked, sameFields⟩ := toEntity_of_remembered closed remembered recorded
  have marks_iff : ∀ name, e'.isIndexed name = false ↔
      ∃ p ∈ m.schema.properties, p.isIndexed = false ∧ p.storageName = name :=
    fun name => defined.isIndexed_eq_false_iff marked
  have indexed : ∀ name, m.schema.propertyByStorageName? name = none →
      e'.isIndexed name = true := by
    intro name foreign
    by_contra left
    obtain ⟨p, member, -, same⟩ := (marks_iff name).mp (Bool.eq_false_iff.mpr left)
    exact Schema.storageName_ne_of_foreign foreign p member same
  refine ⟨sameKey, fun name foreign => ⟨sameFields name foreign, indexed name foreign⟩, marks_iff,
    ?_, ?_⟩
  · intro keeps name v foreign held
    have wasIndexed : e.isIndexed name = true := by
      rw [← (keeps name v foreign held).2, indexed name foreign]
    refine ⟨?_, wasIndexed⟩
    by_contra! isLong
    rw [long name v held (or_iff_not_imp_left.mpr isLong)] at wasIndexed
    contradiction
  · intro wereIndexed name v foreign held
    constructor
    · rw [sameFields name foreign, held]
    · rw [indexed name foreign, (wereIndexed name v foreign held).2]

/-- A kind of stories with a title. -/
def titled : Definition where
  kind := "Story"
  declared := [("title", { kind := .string false })]

/-- The record of a story from a time when its kind had one more property. -/
def outdated (name : String) (v : Value) : Entity :=
  (({ key := ⟨[⟨"Story", some (.name "first")⟩]⟩ } : Entity).set "title" (.string "One")).set name v

theorem cases_of_outdated {name name' : String} {v w : Value}
    (held : (outdated name v).get? name' = some w) :
    name = name' ∧ w = v ∨ w = .string "One" := by
  rw [outdated, Entity.get?_set, Entity.get?_set] at held
  split at held
  · rename_i same
    exact .inl ⟨same, (Option.some.inj held).symm⟩
  · split at held
    · exact .inr (Option.some.inj held).symm
    · contradiction

theorem defined_of_titled {schema : Schema} (assembled : titled.assemble = .ok schema) :
    schema.Defined :=
  .assemble (fun _ listed => absurd listed List.not_mem_nil) assembled

/-- A number of pages is kept and stays indexed. -/
theorem toEntity_of_outdated_pages :
    ∃ schema m₀ m e', schema.Defined ∧ schema.isExpando = false ∧
      (outdated "pages" (.integer 5)).key.hasIdentifier = true ∧
      (outdated "pages" (.integer 5)).MarksLong ∧
      fromEntity schema (outdated "pages" (.integer 5)) midnight = .ok m₀ ∧
      [Assignment.edit (.set "title" (.string "Two"))].foldlM Assignment.apply m₀ = .ok m ∧
      m.toEntity midnight = .ok e' ∧
      schema.KeepsForeign (outdated "pages" (.integer 5)) e' := by
  have short : ∀ name v, (outdated "pages" (.integer 5)).get? name = some v →
      v.type ≠ .text ∧ v.type ≠ .blob := by
    intro name v held
    rcases cases_of_outdated held with ⟨-, rfl⟩ | rfl <;> simp [Value.type]
  have long : (outdated "pages" (.integer 5)).MarksLong := by
    intro name v held isLong
    exact absurd isLong (not_or.mpr (short name v held))
  refine ⟨_, _, _, _, defined_of_titled rfl, rfl, rfl, long, rfl, rfl, rfl, ?_⟩
  have exactly := (@toEntity_of_loaded _ _ _ [.edit (.set "title" (.string "Two"))] _ _
    midnight midnight (defined_of_titled rfl) rfl rfl long rfl rfl rfl).2.2.2
  refine exactly.mpr fun name v foreign held => ⟨short name v held, ?_⟩
  simp [outdated, Entity.set, Entity.isIndexed]

/-- The record of a story that once had a long text. -/
def outdatedBody : Entity :=
  { outdated "body" (.text "long") with unindexed := {"body"} }

/-- The body is not indexed when the story is loaded, and it is when the story is saved again. -/
theorem body_indexed :
    ∃ schema m₀ e', schema.Defined ∧ schema.isExpando = false ∧
      outdatedBody.key.hasIdentifier = true ∧ outdatedBody.MarksLong ∧
      schema.propertyByStorageName? "body" = none ∧
      fromEntity schema outdatedBody midnight = .ok m₀ ∧ m₀.toEntity midnight = .ok e' ∧
      outdatedBody.isIndexed "body" = false ∧ (e'.get? "body").map Value.type = some .text ∧
      e'.isIndexed "body" = true ∧ ¬ schema.KeepsForeign outdatedBody e' := by
  have long : outdatedBody.MarksLong := by
    intro name v held isLong
    have fields : (outdated "body" (.text "long")).get? name = some v := held
    rcases cases_of_outdated fields with ⟨rfl, -⟩ | rfl
    · rfl
    · simp [Value.type] at isLong
  refine ⟨_, _, _, defined_of_titled rfl, rfl, rfl, long, rfl, rfl, rfl, by decide +kernel,
    by decide +kernel, by decide +kernel, ?_⟩
  intro keeps
  obtain ⟨-, sameMark⟩ := keeps "body" (.text "long") rfl (by rfl)
  exact absurd sameMark (by decide +kernel)

end Model

end EntityStore
