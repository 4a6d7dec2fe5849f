import EntityStore.Proofs.Model.Record

/-!
# Loading what was saved

An instance that is built, edited, written and loaded again has the values that it had, with two
exceptions.  An empty list leaves no field, so it loads as the items that its property declares to
start with.  And a dynamic value is only kept from the attribute names of the declared properties:
under the storage name of one it takes the place of the declared value.
-/

namespace EntityStore.Model

variable {d : Definition} {b : Builder} {m₀ m : Model} {edits : List Edit} {e : Entity}
  {created saved loaded : Moment}

/-- Loading gives back every declared value but the lists that left no field: an empty one whose
property declares items to start with, and one that was never a list. -/
theorem fromEntity_toEntity (defined : d.assemble = .ok b.schema)
    (closed : b.schema.isExpando = false)
    (held : ∀ p ∈ b.schema.properties, p.isFilledOnWrite = false)
    (built : b.build created = .ok m₀) (edited : edits.foldlM Edit.apply m₀ = .ok m)
    (recorded : m.toEntity saved = .ok e) :
    ∃ m', fromEntity b.schema e loaded = .ok m' ∧ ∀ p ∈ b.schema.properties,
      (m'.value p.attributeName = m.value p.attributeName ↔
        (p.kind.isList = true → m.value p.attributeName ≠ .null ∧
          (m.value p.attributeName = .list [] → p.StartsEmpty))) := by
  have distinct := Definition.distinct_of_assemble defined
  have unwritten := (Builder.unwritten_of_build distinct built).edits distinct edited
  have recordOf := unwritten.toFresh.recordOf distinct recorded
  obtain ⟨m', loads, values, -⟩ := fromEntity_eq_ok distinct recordOf.kind_eq loaded
  refine ⟨m', loads, fun p member => ?_⟩
  have place := recordOf.place_eq p member (held p member)
    fun expando => absurd (closed.symm.trans expando) nofun
  rw [values p member]
  exact loadedValue_eq_iff (unwritten.holds p member) place

/-- A kind with a title and with tags, of which there is one to start with. -/
def tagged : Definition where
  kind := "Story"
  declared :=
    [("title", { kind := .string false }),
      ("tags", { kind := .list .string, default := some (.list [.string "new"]) })]

/-- The start of the epoch, with nobody signed in. -/
def midnight : Moment :=
  ⟨⟨.epoch, .midnight⟩, none⟩

theorem held_of_tagged : ∀ {schema : Schema}, tagged.assemble = .ok schema →
    ∀ p ∈ schema.properties, p.isFilledOnWrite = false := by
  rintro schema ⟨⟩
  decide

theorem fromEntity_toEntity_of_tagged :
    ∃ schema m₀ m e, tagged.assemble = .ok schema ∧ schema.isExpando = false ∧
      (∀ p ∈ schema.properties, p.isFilledOnWrite = false) ∧
      Builder.build { schema, name := some "first" } midnight = .ok m₀ ∧
      [Edit.set "title" (.string "One")].foldlM Edit.apply m₀ = .ok m ∧
      m.toEntity midnight = .ok e ∧
      ∃ m', fromEntity schema e midnight = .ok m' ∧ m'.value "title" = m.value "title" := by
  refine ⟨_, _, _, _, rfl, rfl, held_of_tagged rfl, rfl, rfl, rfl, ?_⟩
  obtain ⟨m', loads, same⟩ :=
    @fromEntity_toEntity tagged { schema := _, name := some "first" } _ _
      [.set "title" (.string "One")] _ midnight midnight midnight rfl rfl
      (held_of_tagged rfl) rfl rfl rfl
  exact ⟨m', loads, (same _ List.mem_cons_self).mpr nofun⟩

/-- Tags that were taken away come back. -/
theorem tags_return :
    ∃ schema m₀ m e m', tagged.assemble = .ok schema ∧ schema.isExpando = false ∧
      (∀ p ∈ schema.properties, p.isFilledOnWrite = false) ∧
      Builder.build { schema, name := some "first" } midnight = .ok m₀ ∧
      [Edit.set "tags" (.list [])].foldlM Edit.apply m₀ = .ok m ∧
      m.toEntity midnight = .ok e ∧ fromEntity schema e midnight = .ok m' ∧
      m.value "tags" = .list [] ∧ m'.value "tags" = .list [.string "new"] :=
  ⟨_, _, _, _, _, rfl, rfl, held_of_tagged rfl, rfl, rfl, rfl, rfl, rfl, rfl⟩

/-! ## Kinds with dynamic properties -/

/-- Two instances with the same dynamic values and the same declared ones, apart from lists and
from what every write replaces. -/
structure Restores (schema : Schema) (m m' : Model) : Prop where
  dynamic : m'.dynamic = m.dynamic
  declared : ∀ p ∈ schema.properties, p.kind.isList = false → p.isFilledOnWrite = false →
    m'.value p.attributeName = m.value p.attributeName

/-- Loading gives back the dynamic values whose names no declared property stores under, and the
declared values whose places they leave alone. -/
theorem fromEntity_toEntity_of_expando (defined : d.assemble = .ok b.schema)
    (expando : b.schema.isExpando = true) (built : b.build created = .ok m₀)
    (edited : edits.foldlM Edit.apply m₀ = .ok m) (recorded : m.toEntity saved = .ok e) :
    ∃ m', fromEntity b.schema e loaded = .ok m' ∧
      m'.dynamic = m.dynamic.filter (fun name _ => (b.schema.propertyByStorageName? name).isNone) ∧
      (∀ p ∈ b.schema.properties, p.kind.isList = false → p.isFilledOnWrite = false →
        p.storageName ∉ m.dynamic → m'.value p.attributeName = m.value p.attributeName) ∧
      (Restores b.schema m m' ↔
        ∀ name ∈ m.dynamic, b.schema.propertyByStorageName? name = none) := by
  have distinct := Definition.distinct_of_assemble defined
  have unwritten := (Builder.unwritten_of_build distinct built).edits distinct edited
  have recordOf := unwritten.toFresh.recordOf distinct recorded
  obtain ⟨m', loads, values, dynamics⟩ := fromEntity_eq_ok distinct recordOf.kind_eq loaded
  have kept : m'.dynamic =
      m.dynamic.filter fun name _ => (b.schema.propertyByStorageName? name).isNone := by
    apply Std.ExtTreeMap.ext_getElem?
    intro name
    rw [dynamics expando, getElem?_filter_names]
    split
    next foreign => exact recordOf.dynamic_eq expando name (Option.isNone_iff_eq_none.mp foreign)
    · rfl
  have restored : ∀ p ∈ b.schema.properties, p.kind.isList = false → p.isFilledOnWrite = false →
      p.storageName ∉ m.dynamic → m'.value p.attributeName = m.value p.attributeName := by
    intro p member single held free
    have place := recordOf.place_eq p member held fun _ => free
    rw [values p member]
    exact (loadedValue_eq_iff (unwritten.holds p member) place).mpr (by simp [single])
  have same_iff : m'.dynamic = m.dynamic ↔
      ∀ name ∈ m.dynamic, b.schema.propertyByStorageName? name = none := by
    rw [kept, Std.ExtTreeMap.filter_eq_self_iff]
    simp only [Std.ExtTreeMap.getKey_eq, Option.isNone_iff_eq_none]
  refine ⟨m', loads, kept, restored, fun restores => same_iff.mp restores.dynamic,
    fun apart => ⟨same_iff.mpr apart, fun p member single held => ?_⟩⟩
  refine restored p member single held fun taken => ?_
  have declares := Schema.propertyByStorageName?_isSome_iff.mpr ⟨p, member, rfl⟩
  rw [apart _ taken] at declares
  contradiction

/-- A kind with dynamic properties whose title is stored as `t`. -/
def noted : Definition where
  kind := "Note"
  declared := [("title", { kind := .string false, storage := some "t" })]
  isExpando := true

theorem fromEntity_toEntity_of_noted :
    ∃ schema m₀ m e, noted.assemble = .ok schema ∧ schema.isExpando = true ∧
      Builder.build { schema, name := some "first" } midnight = .ok m₀ ∧
      [Edit.set "title" (.string "One"), .setDynamic "pages" (.integer 5)].foldlM Edit.apply m₀ =
        .ok m ∧
      m.toEntity midnight = .ok e ∧
      ∃ m', fromEntity schema e midnight = .ok m' ∧ Restores schema m m' := by
  refine ⟨_, _, _, _, rfl, rfl, rfl, rfl, rfl, ?_⟩
  obtain ⟨m', loads, -, -, restores_iff⟩ :=
    @fromEntity_toEntity_of_expando noted { schema := _, name := some "first" } _ _
      [.set "title" (.string "One"), .setDynamic "pages" (.integer 5)] _ midnight midnight midnight
      rfl rfl rfl rfl rfl
  refine ⟨m', loads, restores_iff.mpr fun name member => ?_⟩
  obtain rfl : name = "pages" := List.mem_singleton.mp (Std.ExtTreeMap.mem_keys.mpr member)
  rfl

/-- A dynamic value is accepted under the name that the title is stored by, and loads as the
title. -/
theorem title_clobbered :
    ∃ schema m₀ m e m', noted.assemble = .ok schema ∧ schema.isExpando = true ∧
      Builder.build { schema, name := some "first" } midnight = .ok m₀ ∧
      [Edit.set "title" (.string "One"), .setDynamic "t" (.integer 5)].foldlM Edit.apply m₀ =
        .ok m ∧
      m.toEntity midnight = .ok e ∧ fromEntity schema e midnight = .ok m' ∧
      "t" ∈ m.dynamic ∧ (m.value "title").text? = some "One" ∧
      "t" ∉ m'.dynamic ∧ (m'.value "title").integer? = some 5 :=
  ⟨_, _, _, _, _, rfl, rfl, rfl, rfl, rfl, rfl, by decide +kernel, by decide +kernel,
    by decide +kernel, by decide +kernel⟩

end EntityStore.Model
