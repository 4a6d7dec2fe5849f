import EntityStore.Proofs.Model.RoundTrip

/-!
# What new instances start with

A new instance starts with the default of every property, validated unless it is empty, and only
then are its fields set.  So a default that its property refuses keeps an instance from being built
even where the field is given, and that goes for the empty list too, which a list property starts
with and does not count as empty.

A record that lacks a field gives its property the default as it is written.  So a default of
another type than the property's is turned into that type in a new instance, and is not in a loaded
one.
-/

namespace EntityStore

namespace Property

variable {p : Property} {v w : Value} {moment : Moment}

/-- What a property starts with: an empty default as it is, and any other one validated. -/
def start (p : Property) (moment : Moment) : Except Failure Value :=
  if p.isEmptyValue (p.defaultValue moment) then return p.defaultValue moment
  else p.validate (p.defaultValue moment)

/-- Whether the time or the user fills the property. -/
def isAutomatic (p : Property) : Bool :=
  p.kind.automatic?.any fun a => a.onWrite || a.onCreate

/-- Whether a property starts in its own type, or with nothing. -/
def StartsTyped (p : Property) (moment : Moment) : Prop :=
  (p.defaultValue moment).type = p.dataType ∨
    p.kind.isList = false ∧ p.isEmptyValue (p.defaultValue moment) = true

/-- What is declared to start with does not depend on the time or the user. -/
theorem defaultValue_congr (manual : p.isAutomatic = false) (moment moment' : Moment) :
    p.defaultValue moment = p.defaultValue moment' := by
  unfold isAutomatic at manual
  unfold defaultValue
  cases kind : p.kind <;> simp_all [PropertyKind.automatic?]

/-- Coercion leaves what has the type alone. -/
theorem coerceTo_eq_of_type {name : String} {kind : PropertyKind}
    (coerced : coerceTo name kind v = .ok w) (type : v.type = kind.dataType) : w = v := by
  cases kind <;> cases v <;> try contradiction
  case list.list =>
    rcases Failure.map_eq_ok_iff.mp coerced with ⟨items, checked, rfl⟩
    rw [(checkItems_eq_ok_iff.mp checked).2]
  case reference.key =>
    exact (Failure.pure_eq_ok_iff.mp (Failure.require_eq_ok_iff.mp coerced).2).symm
  all_goals exact (Except.ok.inj coerced).symm

theorem narrow_of_admitsItem {item : ValueType} (admitted : item.admitsItem v = true) :
    narrow item v = v := by
  cases v <;> cases item <;> first | rfl | contradiction

/-- Nothing that has the type is stored in another form. -/
theorem valueFromStorage_of_admits (admitted : p.kind.Admits v) : p.valueFromStorage v = v := by
  unfold valueFromStorage
  have type := admitted.type
  cases kind : p.kind <;> rw [kind] at type <;> cases v <;> try first | rfl | contradiction
  case list.list item items =>
    have each : items.map (narrow item) = items.map id :=
      List.map_congr_left fun v member =>
        narrow_of_admitsItem (List.all_eq_true.mp (admitted.items item items kind rfl) v member)
    simp only [each, List.map_id]

theorem valueFromStorage_of_empty (single : p.kind.isList = false)
    (empty : p.isEmptyValue v = true) : p.valueFromStorage v = v := by
  unfold isEmptyValue at empty
  unfold valueFromStorage
  cases kind : p.kind <;> rw [kind] at single empty <;> cases v <;> first | rfl | contradiction

/-- Only lists, dates and times of day are read in another form than they are stored in, and those
are never coerced. -/
theorem type_of_read (coerced : coerceTo p.storageName p.kind v = .ok w)
    (read : p.valueFromStorage v = w) : v.type = p.dataType := by
  have type := (admits_of_coerceTo coerced).type
  unfold dataType
  unfold valueFromStorage at read
  cases kind : p.kind <;> rw [kind] at coerced type read
  case list item =>
    simp only [coerceTo] at coerced
    split at coerced
    · rfl
    · contradiction
  case date =>
    exact (exactly_eq_ok_iff.mp (Failure.refuse_eq_ok_iff.mp coerced).2).1
  case time => exact (exactly_eq_ok_iff.mp coerced).1
  all_goals
    have same : v = w := read
    rw [same]
    exact type

/-- A default is read as what a new instance starts from exactly when it has the type for it: an
empty one is not validated, and only the null of a list is read as something else. -/
theorem read_eq_start_iff (starts : p.start moment = .ok w) :
    p.valueFromStorage (p.defaultValue moment) = w ↔ p.StartsTyped moment := by
  unfold start at starts
  unfold StartsTyped
  generalize p.defaultValue moment = v at starts ⊢
  cases empty : p.isEmptyValue v with
  | true =>
      rw [if_pos empty] at starts
      cases Failure.pure_eq_ok_iff.mp starts
      cases isList : p.kind.isList with
      | true =>
          rcases PropertyKind.isList_eq_true_iff.mp isList with ⟨item, kind⟩
          have null : w = .null := by
            rw [isEmptyValue, isList] at empty
            cases w <;> first | rfl | contradiction
          subst null
          refine iff_of_false (valueFromStorage_ne_null kind) ?_
          rintro (typed | ⟨single, -⟩)
          · rw [dataType, kind] at typed
            cases typed
          · contradiction
      | false => exact iff_of_true (valueFromStorage_of_empty isList empty) (.inr ⟨rfl, rfl⟩)
  | false =>
      rw [if_neg (by simp [empty])] at starts
      have coerced := ((validate_eq_ok_iff empty).mp starts).1
      have admitted := admits_of_coerceTo coerced
      constructor
      · intro read
        exact .inl (type_of_read coerced read)
      · rintro (typed | ⟨-, missing⟩)
        · cases coerceTo_eq_of_type coerced typed
          exact valueFromStorage_of_admits admitted
        · contradiction

end Property

namespace Builder

variable {b : Builder} {m m' : Model} {p : Property} {moment : Moment}

theorem startProperty_eq_ok_iff :
    startProperty moment m p = .ok m' ↔
      ∃ v, p.start moment = .ok v ∧ m.hold p.attributeName v = m' := by
  have starting : startProperty moment m p =
      (p.start moment >>= fun v => pure (m.hold p.attributeName v)) := by
    by_cases empty : p.isEmptyValue (p.defaultValue moment) = true
    · simp only [startProperty, Property.start, if_pos empty]
    · simp only [startProperty, Property.start, if_neg empty]
  simp only [starting, Failure.bind_eq_ok_iff, Failure.pure_eq_ok_iff]

theorem schema_of_startProperty (answered : startProperty moment m p = .ok m') :
    m'.schema = m.schema := by
  rcases startProperty_eq_ok_iff.mp answered with ⟨v, -, rfl⟩
  rfl

/-- Every property holds what it starts with once all of them have started. -/
theorem start_of_foldlM {s : Schema} (distinct : s.Distinct) (member : p ∈ s.properties)
    (started : s.properties.foldlM (startProperty moment) m = .ok m') :
    p.start moment = .ok (m'.value p.attributeName) := by
  refine Failure.outcome_of_foldlM
    (P := fun m : Model => p.start moment = .ok (m.value p.attributeName)) member ?_ ?_ started
  · intro m m' answered
    rcases startProperty_eq_ok_iff.mp answered with ⟨v, starts, rfl⟩
    rw [Model.value_hold, if_pos rfl, starts]
  · intro q member' m m' held answered
    rcases startProperty_eq_ok_iff.mp answered with ⟨v, starts, rfl⟩
    rw [Model.value_hold]
    split
    next same =>
      rw [← distinct.eq_of_attributeName member' member same]
      exact starts
    · exact held

end Builder

/-! ## Records that lack a field -/

namespace Model

variable {b : Builder} {m₀ : Model} {p : Property} {e : Entity} {created : Moment}

/-- Where a record lacks the field of a property that is not automatic, the property loads as it is
built without fields just when its default is of its own type, or empty. -/
theorem loads_default_iff (defined : b.schema.Defined) (bare : b.fields = [])
    (built : b.build created = .ok m₀) (member : p ∈ b.schema.properties)
    (manual : p.isAutomatic = false) (kind : e.kind = b.schema.kind)
    (lacks : e.get? p.storageName = none) (loaded : Moment) :
    ∃ m, fromEntity b.schema e loaded = .ok m ∧
      (m.value p.attributeName = m₀.value p.attributeName ↔ p.StartsTyped created) := by
  rcases Builder.build_eq_ok_iff.mp built with ⟨-, identity, -, started, begun, set⟩
  rw [bare] at set
  cases Failure.pure_eq_ok_iff.mp set
  have starts := Builder.start_of_foldlM defined.distinct member begun
  rcases fromEntity_eq_ok defined.distinct kind loaded with ⟨m, loads, values, -⟩
  refine ⟨m, loads, ?_⟩
  rw [values p member, loadedValue_of_missing lacks, ← Property.read_eq_start_iff starts,
    Property.defaultValue_congr manual _ created]

/-- A record of a story without any fields. -/
def bareStory : Entity where
  key := ⟨[⟨"Story", some (.name "first")⟩]⟩

theorem defined_of_tagged {schema : Schema} (assembled : tagged.assemble = .ok schema) :
    schema.Defined :=
  .assemble (fun _ listed => absurd listed List.not_mem_nil) assembled

/-- The tags to start with are those of a new story. -/
theorem tags_load_as_built :
    ∃ schema m₀ m, tagged.assemble = .ok schema ∧ Builder.build { schema } midnight = .ok m₀ ∧
      (∀ p ∈ schema.properties, p.isAutomatic = false) ∧ bareStory.kind = schema.kind ∧
      fromEntity schema bareStory midnight = .ok m ∧ m.value "tags" = m₀.value "tags" := by
  refine ⟨_, _, _, rfl, rfl, by decide, rfl, rfl, ?_⟩
  rcases @loads_default_iff { schema := _ } _ _ bareStory midnight (defined_of_tagged rfl) rfl rfl
    (List.mem_cons_of_mem _ List.mem_cons_self) rfl rfl rfl midnight with ⟨m, loads, same⟩
  cases loads
  exact same.mpr (.inl rfl)

/-- A kind with a section, whose default is a plain text. -/
def sectioned : Definition where
  kind := "Story"
  declared := [("section", { kind := .category, default := some (.string "news") })]

/-- A new story has a category for a section, and a loaded one a plain text. -/
theorem section_loads_untyped :
    ∃ schema m₀ m, sectioned.assemble = .ok schema ∧ schema.isAbstract = false ∧
      Builder.build { schema, name := some "first" } midnight = .ok m₀ ∧
      (∀ p ∈ schema.properties, p.isAutomatic = false) ∧
      bareStory.kind = schema.kind ∧ bareStory.get? "section" = none ∧
      fromEntity schema bareStory midnight = .ok m ∧
      m₀.value "section" = .category "news" ∧ m.value "section" = .string "news" := by
  refine ⟨_, _, _, rfl, rfl, rfl, by decide, rfl, rfl, rfl, rfl, rfl⟩

end Model

/-! ## Fields that fill a schema -/

namespace Schema

/-- Whether fields give each property of a schema a value that it takes, and nothing else. -/
structure FilledBy (s : Schema) (given : List (String × Value)) : Prop where
  taken : ∀ field ∈ given, ∃ p ∈ s.properties, p.attributeName = field.1 ∧
    ∃ w, p.validate field.2 = .ok w
  complete : ∀ p ∈ s.properties, ∃ v, (p.attributeName, v) ∈ given

end Schema

namespace Builder

variable {s : Schema} {given before after : List (String × Value)} {m m' : Model} {p : Property}
  {v w : Value} {moment : Moment}

/-- A new instance of a schema with fields that are given by values, to be addressed when it is
written. -/
def ofFields (s : Schema) (given : List (String × Value)) : Builder where
  schema := s
  fields := given.map fun (name, v) => (name, .value v)

/-- Each of the fields that fill a schema can be set. -/
theorem setField_of_filledBy (distinct : s.Distinct) (filled : s.FilledBy given)
    {field : String × Value} (listed : field ∈ given) (ofSchema : m.schema = s) :
    ∃ w, setField m (field.1, .value field.2) = .ok ((m.hold field.1 w).forget field.1) ∧
      ∀ p ∈ s.properties, p.attributeName = field.1 → p.validate field.2 = .ok w := by
  rcases filled.taken field listed with ⟨p, member, named, w, validated⟩
  have declared : m.schema.property? field.1 = some p := by
    rw [ofSchema, ← named]
    exact distinct.property?_eq member
  refine ⟨w, ?_, ?_⟩
  · simp only [setField, Model.set, declared, Model.setDeclared, Model.assign, validated, named]
    rfl
  · intro q member' named'
    rw [distinct.eq_of_attributeName member' member (named'.trans named.symm)]
    exact validated

/-- Fields that fill a schema can all be set, one after the other. -/
theorem exists_set_of_filledBy (distinct : s.Distinct) (filled : s.FilledBy given)
    (ofSchema : m.schema = s) :
    ∃ m', (ofFields s given).fields.foldlM setField m = .ok m' ∧ m'.schema = s := by
  refine Failure.exists_of_foldlM (P := fun m : Model => m.schema = s) ?_ ofSchema
  intro argument among m ofSchema
  rcases List.mem_map.mp among with ⟨field, listed, rfl⟩
  rcases setField_of_filledBy distinct filled listed ofSchema with ⟨w, set, -⟩
  exact ⟨_, set, ofSchema⟩

/-- Setting such a field leaves the other attributes alone. -/
theorem of_setField_of_filledBy (distinct : s.Distinct) (filled : s.FilledBy given)
    {field : String × Value} (listed : field ∈ given) (ofSchema : m.schema = s)
    (set : setField m (field.1, .value field.2) = .ok m') :
    m'.schema = s ∧ (∀ attr, field.1 ≠ attr → m'.value attr = m.value attr) ∧
      ∀ p ∈ s.properties, p.attributeName = field.1 →
        p.validate field.2 = .ok (m'.value p.attributeName) := by
  rcases setField_of_filledBy distinct filled listed ofSchema with ⟨w, set', validated⟩
  cases set'.symm.trans set
  have value_eq : ∀ attr, ((m.hold field.1 w).forget field.1).value attr =
      if field.1 = attr then w else m.value attr :=
    fun attr => Model.value_hold
  refine ⟨ofSchema, ?_, ?_⟩
  · intro attr other
    rw [value_eq, if_neg other]
  · intro p member named
    rw [value_eq, if_pos named.symm]
    exact validated p member named

/-- A property holds the validated form of the value that it is given last. -/
theorem validate_of_last (distinct : s.Distinct) (filled : s.FilledBy given)
    (ofSchema : m.schema = s) (member : p ∈ s.properties)
    (last : given = before ++ (p.attributeName, v) :: after)
    (unchanged : ∀ field ∈ after, field.1 ≠ p.attributeName)
    (set : (ofFields s given).fields.foldlM setField m = .ok m') :
    p.validate v = .ok (m'.value p.attributeName) := by
  have earlier : ∀ field ∈ before, field ∈ given := fun field listed => by simp [last, listed]
  have own : (p.attributeName, v) ∈ given := by simp [last]
  have later : ∀ field ∈ after, field ∈ given := fun field listed => by simp [last, listed]
  simp only [ofFields, last, List.map_append, List.map_cons, List.foldlM_append, List.foldlM_cons,
    Failure.bind_eq_ok_iff] at set
  rcases set with ⟨m₁, setBefore, m₂, setOwn, setAfter⟩
  have ofSchema₁ : m₁.schema = s := by
    refine Failure.invariant_of_foldlM (P := fun m : Model => m.schema = s) ?_ ofSchema setBefore
    intro argument among m m' ofSchema answered
    rcases List.mem_map.mp among with ⟨field, listed, rfl⟩
    exact (of_setField_of_filledBy distinct filled (earlier field listed) ofSchema answered).1
  rcases of_setField_of_filledBy distinct filled own ofSchema₁ setOwn with ⟨ofSchema₂, -, holds⟩
  have kept : m'.schema = s ∧ m'.value p.attributeName = m₂.value p.attributeName := by
    refine Failure.invariant_of_foldlM
      (P := fun m : Model => m.schema = s ∧ m.value p.attributeName = m₂.value p.attributeName)
      ?_ ⟨ofSchema₂, rfl⟩ setAfter
    rintro argument among m m' ⟨ofSchema, same⟩ answered
    rcases List.mem_map.mp among with ⟨field, listed, rfl⟩
    rcases of_setField_of_filledBy distinct filled (later field listed) ofSchema answered with
      ⟨ofSchema', others, -⟩
    exact ⟨ofSchema', (others p.attributeName (unchanged field listed)).trans same⟩
  rw [kept.2]
  exact holds p member rfl

/-- Fields that fill a concrete kind make an instance of it just when all its properties can start,
whatever they are given.  The instance holds the validated form of what each of them is given
last. -/
theorem build_filled_iff (defined : s.Defined) (concrete : s.isAbstract = false)
    (filled : s.FilledBy given) (moment : Moment) :
    ((∃ m, (ofFields s given).build moment = .ok m) ↔
        ∀ p ∈ s.properties, ∃ v, p.start moment = .ok v) ∧
      ∀ m, (ofFields s given).build moment = .ok m → ∀ p ∈ s.properties, ∀ before v after,
        given = before ++ (p.attributeName, v) :: after →
          (∀ field ∈ after, field.1 ≠ p.attributeName) →
            p.validate v = .ok (m.value p.attributeName) := by
  constructor
  · constructor
    · rintro ⟨m, built⟩ p member
      rcases build_eq_ok_iff.mp built with ⟨-, identity, -, started, starts, -⟩
      exact ⟨_, start_of_foldlM defined.distinct member starts⟩
    · intro starts
      have begun : ∃ m, s.properties.foldlM (startProperty moment)
          ((ofFields s given).blank (.pending none none)) = .ok m ∧ m.schema = s := by
        refine Failure.exists_of_foldlM (P := fun m : Model => m.schema = s) ?_ rfl
        intro p member m ofSchema
        rcases starts p member with ⟨v, starts⟩
        exact ⟨_, startProperty_eq_ok_iff.mpr ⟨v, starts, rfl⟩, ofSchema⟩
      rcases begun with ⟨started, begun, ofSchema⟩
      rcases exists_set_of_filledBy defined.distinct filled ofSchema with ⟨m, set, -⟩
      exact ⟨m, build_eq_ok_iff.mpr ⟨concrete, _, rfl, started, begun, set⟩⟩
  · intro m built p member before v after last unchanged
    rcases build_eq_ok_iff.mp built with ⟨-, identity, -, started, begun, set⟩
    have ofSchema : started.schema = s := by
      refine Failure.invariant_of_foldlM (P := fun m : Model => m.schema = s) ?_ rfl begun
      intro p _ m m' ofSchema answered
      exact (schema_of_startProperty answered).trans ofSchema
    exact validate_of_last defined.distinct filled ofSchema member last unchanged set

/-- A title, tags, and then another title. -/
def retitled : List (String × Value) :=
  [("title", .string "One"), ("tags", .list [.string "a"]), ("title", .string "Two")]

theorem filled_of_tagged {schema : Schema} (assembled : Model.tagged.assemble = .ok schema) :
    schema.FilledBy retitled := by
  cases assembled
  constructor
  · intro field listed
    rcases List.mem_cons.mp listed with rfl | listed
    · exact ⟨_, List.mem_cons_self, rfl, _, rfl⟩
    rcases List.mem_cons.mp listed with rfl | listed
    · exact ⟨_, List.mem_cons_of_mem _ List.mem_cons_self, rfl, _, rfl⟩
    cases List.mem_singleton.mp listed
    exact ⟨_, List.mem_cons_self, rfl, _, rfl⟩
  · intro p member
    rcases List.mem_cons.mp member with rfl | member
    · exact ⟨_, List.mem_cons_self⟩
    · cases List.mem_singleton.mp member
      exact ⟨_, List.mem_cons_of_mem _ List.mem_cons_self⟩

/-- The title of a story is the one that it is given last. -/
theorem build_filled_retitled :
    ∃ schema m, Model.tagged.assemble = .ok schema ∧ schema.isAbstract = false ∧
      schema.FilledBy retitled ∧ (ofFields schema retitled).build Model.midnight = .ok m ∧
      m.value "title" = .string "Two" := by
  refine ⟨_, _, rfl, rfl, filled_of_tagged rfl, rfl, ?_⟩
  have last := (build_filled_iff (Model.defined_of_tagged rfl) rfl (filled_of_tagged rfl)
    Model.midnight).2 _ rfl _ List.mem_cons_self
    [("title", .string "One"), ("tags", .list [.string "a"])] (.string "Two") [] rfl nofun
  exact (Except.ok.inj last).symm

/-- A kind with tags, of which there has to be one. -/
def guarded : Definition where
  kind := "Story"
  declared := [("tags", {
    kind := .list .string
    validator := some fun v =>
      if v.agrees (.list []) then throw (.reported .validation "rejected by validator")
      else return })]

/-- A story cannot be built with a tag, because it would start without one. -/
theorem tagged_not_built :
    ∃ schema, guarded.assemble = .ok schema ∧ schema.isAbstract = false ∧
      schema.FilledBy [("tags", .list [.string "a"])] ∧
      ∀ m, (ofFields schema [("tags", .list [.string "a"])]).build Model.midnight ≠ .ok m := by
  refine ⟨_, rfl, rfl, ⟨?_, ?_⟩, ?_⟩
  · intro field listed
    cases List.mem_singleton.mp listed
    exact ⟨_, List.mem_singleton_self _, rfl, _, rfl⟩
  · intro p member
    cases List.mem_singleton.mp member
    exact ⟨_, List.mem_singleton_self _⟩
  · nofun

end Builder

end EntityStore
