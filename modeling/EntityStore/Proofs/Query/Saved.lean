import EntityStore.Proofs.Client.Session
import EntityStore.Proofs.Query.Addressing
import EntityStore.Proofs.Query.Stored

/-!
# Filters find what is saved

A filter on a declared property looks at the place of the property in the records of the kind.  In
a settled session of a closed kind that place holds the stored form of what the instance holds, and
stored forms compare as the held values do.  So a filter finds exactly the instances that satisfy
it in memory, but for the lists that are null there: they are stored as empty lists.
-/

namespace EntityStore

/-- The text of a filter that compares a property by an operator. -/
def Property.filterText (p : Property) (op : Operator) : String :=
  p.attributeName ++ " " ++ op.symbol

/-- Whether filter texts can name a property of a schema, and records keep what instances hold for
it. -/
structure Schema.Filterable (schema : Schema) (p : Property) : Prop where
  member : p ∈ schema.properties
  indexed : p.isIndexed = true
  kept : p.isFilledOnWrite = false
  named : p.attributeName ≠ ""
  oneWord : p.attributeName.toList.all (!Text.isBlank ·) = true
  placed : p.storageName ≠ Key.propertyName

namespace Schema.Filterable

variable {schema : Schema} {p : Property}

/-- A filter compares what is in the place of the property. -/
theorem holds_eq (filterable : schema.Filterable p) (defined : schema.Defined) (op : Operator)
    (operand : Value) (e : Entity) :
    FilterCall.holds (some schema) (.filter (p.filterText op) operand) e =
      Clause.accepts ⟨p.storageName, op, op.normalize operand⟩ e := by
  have inked : ∀ c ∈ p.attributeName.toList, Text.isBlank c = false := by
    simpa using filterable.oneWord
  have parsed : FilterText.parse (p.filterText op) = .ok (p.attributeName, op) :=
    FilterText.parse_symbol filterable.named inked op
  have resolved := Query.resolveProperty_attributeName (q := { schema := some schema }) defined
    filterable.member filterable.indexed rfl
  have meaning : FilterCall.alternatives (some schema) (.filter (p.filterText op) operand) =
      .ok [⟨p.storageName, op, op.normalize operand⟩] := by
    simp only [FilterCall.alternatives, parsed]
    change (Query.resolveProperty _ _ >>= fun property => pure _) = _
    rw [resolved]
    rfl
  simp [FilterCall.holds_of_alternatives meaning]

end Schema.Filterable

namespace Request

/-- A request for the instances of a schema that satisfy one filter. -/
def ofFilter (schema : Schema) (call : FilterCall) : Request where
  schema := some schema
  filters := [call]

theorem wants_ofFilter (schema : Schema) (call : FilterCall) (e : Entity) :
    (ofFilter schema call).wants [] e = true ↔
      e.kind = schema.kind ∧ call.holds (some schema) e = true := by
  rw [eq_comm (a := e.kind)]
  simp [wants, ofFilter]

end Request

/-- Running a query over a schema with one filter lists the records of the kind that satisfy it. -/
theorem Execution.run_filter (around : Surroundings) {schema : Schema} {call : FilterCall}
    {q : Query} (accepted : call.apply (around.client.query schema) = .ok q) (s : Store) :
    ∃ es q', (run around.client).runOn (q, s) = (.ok es, (q', s)) ∧
      Listing [] (fun e => e ∈ s.entities ∧ e.kind = schema.kind ∧
        call.holds (some schema) e = true) es := by
  have narrows : Query.Narrows
      ((Request.ofFilter schema call).start around.configuration.maxQuerySets true) q
      (fun e => (Request.ofFilter schema call).filters.all (·.holds (some schema) e)) := by
    apply (FilterCall.narrows_apply accepted).congr
    intro e
    exact (Bool.and_true _).symm
  have bare : { q with orders := [], ancestor := none } = q := by
    rw [narrows.frame]
    rfl
  rcases Request.run_lists_of_narrows 0 around.registry (pure around.moment) around.configuration
    narrows s with ⟨es, q', ran, listing⟩
  rw [Request.ofFilter, bare] at ran
  refine ⟨es, q', ran, listing.congr fun e => ?_⟩
  rw [Request.wants_ofFilter]

namespace Session

variable {schema : Schema} {session : Session} {p : Property} {held : Held} {e : Entity}

/-- An instance of a session gives what it holds for a property. -/
theorem Fits.get_eq {s : Store} (fits : Fits schema s held) (distinct : schema.Distinct)
    (member : p ∈ schema.properties) :
    held.model.get p.attributeName = .ok (held.model.value p.attributeName) := by
  rw [Model.get, fits.schema_eq, distinct.property?_eq member]
  rfl

/-- A record that shows an instance satisfies a filter when the stored form of what the instance
holds does. -/
theorem Shows.holds_eq (shows : Shows schema held e) (saved : held.saved = true)
    (defined : schema.Defined) (closed : schema.isExpando = false)
    (filterable : schema.Filterable p) (op : Operator) (operand : Value) :
    FilterCall.holds (some schema) (.filter (p.filterText op) operand) e =
      op.holds (p.storedForm (held.model.value p.attributeName)) operand := by
  rcases shows.record saved with ⟨recordOf, unindexed⟩
  have place := recordOf.place_eq p filterable.member filterable.kept fun dynamic =>
    absurd (closed.symm.trans dynamic) nofun
  have indexed := defined.isIndexed_of_unindexed_eq filterable.member filterable.indexed unindexed
  have seen : e.indexedValue p.storageName =
      (p.storedForm (held.model.value p.attributeName)).field? :=
    (Entity.indexedValue_eq_iff indexed place).mpr (.inl filterable.placed)
  rw [filterable.holds_eq defined, Clause.accepts_of_field seen, Operator.holds_normalize]

/-- In a settled session a filter finds the keys of the instances whose stored forms satisfy it. -/
theorem Sound.mem_keys_iff (sound : Sound schema session) (settled : Settled session)
    (defined : schema.Defined) (closed : schema.isExpando = false)
    (filterable : schema.Filterable p) {op : Operator} {operand : Value} {es : List Entity}
    (listing : Listing [] (fun e => e ∈ session.store.entities ∧ e.kind = schema.kind ∧
      FilterCall.holds (some schema) (.filter (p.filterText op) operand) e = true) es) (key : Key) :
    key ∈ es.map (·.key) ↔ ∃ held ∈ session.held, held.model.key = .ok key ∧
      op.holds (p.storedForm (held.model.value p.attributeName)) operand = true := by
  rw [List.mem_map]
  constructor
  · rintro ⟨e, found, rfl⟩
    rcases (listing.mem_iff e).mp found with ⟨stored, kind, satisfies⟩
    rw [Store.mem_entities] at stored
    rcases sound.shown e.key e stored kind with ⟨held, member, shows⟩
    rw [shows.holds_eq (settled.saved held member) defined closed filterable] at satisfies
    exact ⟨held, member, shows.key_of_model, satisfies⟩
  · rintro ⟨held, member, keyed, satisfies⟩
    rcases sound.exists_shown settled member with ⟨e, stored, shows⟩
    have saved := settled.saved held member
    have found : e ∈ es := by
      apply (listing.mem_iff e).mpr
      rw [Store.mem_entities, shows.holds_eq saved defined closed filterable]
      exact ⟨stored, (shows.record saved).1.kind_eq, satisfies⟩
    rw [shows.key_of_model] at keyed
    exact ⟨e, found, Except.ok.inj keyed⟩

/-- Running an accepted filter over a settled session finds the instances whose stored forms satisfy
it, each once. -/
theorem Sound.filter_finds (sound : Sound schema session) (settled : Settled session)
    (defined : schema.Defined) (closed : schema.isExpando = false)
    (filterable : schema.Filterable p) (around : Surroundings) {op : Operator} {operand : Value}
    {q : Query}
    (accepted : (around.client.query schema).filter (p.filterText op) operand = .ok q) :
    ∃ es q', (Execution.run around.client).runOn (q, session.store) =
        (.ok es, (q', session.store)) ∧
      (es.map (·.key)).Nodup ∧
      ∀ key, key ∈ es.map (·.key) ↔ ∃ held ∈ session.held, held.model.key = .ok key ∧
        op.holds (p.storedForm (held.model.value p.attributeName)) operand = true := by
  have applied : FilterCall.apply (around.client.query schema)
      (.filter (p.filterText op) operand) = .ok q := accepted
  rcases Execution.run_filter around applied session.store with ⟨es, q', ran, listing⟩
  exact ⟨es, q', ran, Store.nodup_keys_of_listing listing fun e wanted => wanted.1,
    sound.mem_keys_iff settled defined closed filterable listing⟩

/-- In a settled session of a closed kind, a filter on a property finds exactly the keys of the
instances whose held values satisfy the operator, but for the null that a list property holds when
it was declared to start from it and was never assigned: no filter finds that. -/
theorem filter_finds_satisfying (defined : schema.Defined) (closed : schema.isExpando = false)
    (filterable : schema.Filterable p) (reached : Reached schema session)
    (settled : Settled session) (around : Surroundings) (op : Operator) (operand : Value)
    {q : Query}
    (accepted : (around.client.query schema).filter (p.filterText op) operand = .ok q) :
    ∃ es q', (Execution.run around.client).runOn (q, session.store) =
        (.ok es, (q', session.store)) ∧
      (es.map (·.key)).Nodup ∧
      ∀ key, key ∈ es.map (·.key) ↔ ∃ held ∈ session.held, held.model.key = .ok key ∧
        ∃ v, held.model.get p.attributeName = .ok v ∧ (p.kind.isList = true → v ≠ .null) ∧
          op.holds v operand = true := by
  have sound := reached.sound defined closed
  rcases sound.filter_finds settled defined closed filterable around accepted with
    ⟨es, q', ran, nodup, found⟩
  refine ⟨es, q', ran, nodup, fun key => ?_⟩
  rw [found]
  apply exists_congr
  intro held
  apply and_congr_right
  intro member
  have fits := sound.fits held member
  have got := fits.get_eq defined.distinct filterable.member
  simp [got, Property.holds_storedForm (fits.holds p filterable.member)]

/-- The day of an issue, which records keep under another name. -/
def issueDay : Property where
  kind := .date {}
  binding := some ⟨"Issue", "day"⟩
  storage := some "published"

/-- An issue with its day. -/
def issueDefinition : Definition where
  kind := "Issue"
  declared := [("day", { kind := .date {}, storage := some "published" })]

/-- What the definition puts together. -/
def issues : Schema where
  kind := "Issue"
  properties := [issueDay]
  declared := ["day"]
  unindexed := ∅
  ancestry := []
  isExpando := false
  isAbstract := false

/-- What surrounds the calls of the session. -/
def desk : Surroundings where
  registry := {}
  moment := ⟨⟨.epoch, .midnight⟩, none⟩
  configuration := {}

/-- An issue that is moved to another day after it was first put, and one without a name. -/
def scheduling : List (Event issues) :=
  [.build { schema := issues, name := some "first", fields := [("day", .value (.date .epoch))] } rfl
      desk.moment,
    .put 0 desk,
    .edit 0 (.set "day" (.date ⟨1970, 1, 8, by decide⟩)),
    .put 0 desk,
    .build { schema := issues, fields := [("day", .value (.date .epoch))] } rfl desk.moment,
    .put 1 desk]

/-- The session after these events. -/
def scheduled : Session :=
  run { store := {} } scheduling

theorem defined_issues : issues.Defined :=
  .assemble (d := issueDefinition) nofun rfl

theorem filterable_issueDay : issues.Filterable issueDay where
  member := List.mem_cons_self
  indexed := rfl
  kept := rfl
  named := by decide
  oneWord := rfl
  placed := by decide

theorem reached_scheduled : Reached issues scheduled := by
  refine ⟨{}, scheduling, fun key e stored => ?_, rfl⟩
  exact absurd (Std.ExtTreeMap.getElem?_empty.symm.trans stored) nofun

/-- The keys of the issues in the end, their days, and whether they are as they were put. -/
theorem held_scheduled :
    scheduled.held.map (fun held => (held.model.key, held.model.value "day", held.saved)) =
      [(.ok ⟨[⟨"Issue", some (.name "first")⟩]⟩, .date ⟨1970, 1, 8, by decide⟩, true),
        (.ok ⟨[⟨"Issue", some (.number 1)⟩]⟩, .date .epoch, true)] :=
  rfl

theorem cases_of_scheduled {held : Held} (member : held ∈ scheduled.held) :
    held.saved = true ∧
      (held.model.key = .ok ⟨[⟨"Issue", some (.name "first")⟩]⟩ ∧
          held.model.value "day" = .date ⟨1970, 1, 8, by decide⟩ ∨
        held.model.key = .ok ⟨[⟨"Issue", some (.number 1)⟩]⟩ ∧
          held.model.value "day" = .date .epoch) := by
  have shown := List.mem_map_of_mem
    (f := fun held : Held => (held.model.key, held.model.value "day", held.saved)) member
  rw [held_scheduled] at shown
  simp only [List.mem_cons, Prod.mk.injEq, List.not_mem_nil, or_false] at shown
  rcases shown with ⟨key, day, saved⟩ | ⟨key, day, saved⟩
  · exact ⟨saved, .inl ⟨key, day⟩⟩
  · exact ⟨saved, .inr ⟨key, day⟩⟩

theorem settled_scheduled : Settled scheduled := by
  have keys : scheduled.held.map (·.model.key) =
      [.ok ⟨[⟨"Issue", some (.name "first")⟩]⟩, .ok ⟨[⟨"Issue", some (.number 1)⟩]⟩] := rfl
  constructor
  · intro held member
    exact (cases_of_scheduled member).1
  · rw [keys]
    simp

/-- A filter for other days than the first one finds the issue that was moved, and only that. -/
theorem filter_finds_moved :
    issues.Defined ∧ issues.Filterable issueDay ∧ Reached issues scheduled ∧ Settled scheduled ∧
      ∃ q, (desk.client.query issues).filter (issueDay.filterText .notEqual) (.date .epoch) =
          .ok q ∧
        ∃ es q', (Execution.run desk.client).runOn (q, scheduled.store) =
            (.ok es, (q', scheduled.store)) ∧
          ∀ key, key ∈ es.map (·.key) ↔ key = ⟨[⟨"Issue", some (.name "first")⟩]⟩ := by
  obtain ⟨q, accepted⟩ : ∃ q, (desk.client.query issues).filter (issueDay.filterText .notEqual)
      (.date .epoch) = .ok q := ⟨_, rfl⟩
  rcases filter_finds_satisfying defined_issues rfl filterable_issueDay reached_scheduled
    settled_scheduled desk .notEqual (.date .epoch) accepted with
    ⟨es, q', ran, -, found⟩
  refine ⟨defined_issues, filterable_issueDay, reached_scheduled, settled_scheduled, q, accepted,
    es, q', ran, fun key => (found key).trans ?_⟩
  have days : ∀ held ∈ scheduled.held,
      held.model.get issueDay.attributeName = .ok (held.model.value "day") :=
    fun held member => ((reached_scheduled.sound defined_issues rfl).fits held member).get_eq
      defined_issues.distinct filterable_issueDay.member
  constructor
  · rintro ⟨held, member, keyed, v, got, -, satisfies⟩
    rw [days held member] at got
    cases got
    rcases (cases_of_scheduled member).2 with ⟨own, day⟩ | ⟨own, day⟩
    · exact Except.ok.inj (keyed.symm.trans own)
    · rw [day] at satisfies
      contradiction
  · rintro rfl
    have moved : (.ok ⟨[⟨"Issue", some (.name "first")⟩]⟩, .date ⟨1970, 1, 8, by decide⟩, true) ∈
        scheduled.held.map fun held : Held =>
          (held.model.key, held.model.value "day", held.saved) := by
      rw [held_scheduled]
      exact List.mem_cons_self
    rcases List.mem_map.mp moved with ⟨held, member, shown⟩
    simp only [Prod.mk.injEq] at shown
    rcases shown with ⟨own, day, -⟩
    refine ⟨held, member, own, _, days held member, nofun, ?_⟩
    rw [day]
    rfl

/-- The tags of a note, which start from a declared value or from no tags. -/
def noteTags (start : Option Value) : Property where
  kind := .list .string
  binding := some ⟨"Note", "tags"⟩
  storage := some "tags"
  default := start

/-- A note with its tags. -/
def noteDefinition (start : Option Value) : Definition where
  kind := "Note"
  declared := [("tags", { kind := .list .string, default := start })]

/-- What the definition puts together. -/
def notes (start : Option Value) : Schema where
  kind := "Note"
  properties := [noteTags start]
  declared := ["tags"]
  unindexed := ∅
  ancestry := []
  isExpando := false
  isAbstract := false

/-- A note that is built with some fields and put. -/
def filing (start : Option Value) (fields : List (String × FieldArgument)) :
    List (Event (notes start)) :=
  [.build { schema := notes start, name := some "first", fields } rfl desk.moment, .put 0 desk]

/-- The session after these events. -/
def filed (start : Option Value) (fields : List (String × FieldArgument)) : Session :=
  run { store := {} } (filing start fields)

/-- Whether a filter on the tags misses the filed note, which is as it was put and holds some
tags. -/
structure Misses (start : Option Value) (fields : List (String × FieldArgument)) (op : Operator)
    (operand tags : Value) : Prop where
  held : (filed start fields).held.map
      (fun held => (held.model.key, held.model.get "tags", held.saved)) =
    [(.ok ⟨[⟨"Note", some (.name "first")⟩]⟩, .ok tags, true)]
  missed : ∃ q q',
    (desk.client.query (notes start)).filter ((noteTags start).filterText op) operand = .ok q ∧
      (Execution.run desk.client).runOn (q, (filed start fields).store) =
        (.ok [], (q', (filed start fields).store))

theorem defined_notes (start : Option Value) : (notes start).Defined :=
  .assemble (d := noteDefinition start) nofun rfl

theorem filterable_noteTags (start : Option Value) : (notes start).Filterable (noteTags start) where
  member := List.mem_cons_self
  indexed := rfl
  kept := rfl
  named := (by decide : "tags" ≠ "")
  oneWord := (by decide : "tags".toList.all (!Text.isBlank ·) = true)
  placed := (by decide : "tags" ≠ Key.propertyName)

theorem reached_filed (start : Option Value) (fields : List (String × FieldArgument)) :
    Reached (notes start) (filed start fields) := by
  refine ⟨{}, filing start fields, fun key e stored => ?_, rfl⟩
  exact absurd (Std.ExtTreeMap.getElem?_empty.symm.trans stored) nofun

theorem cases_of_filed {start : Option Value} {fields : List (String × FieldArgument)} {k : Key}
    {tags : Value}
    (only : (filed start fields).held.map
      (fun held => (held.model.key, held.model.get "tags", held.saved)) = [(.ok k, .ok tags, true)])
    {held : Held} (member : held ∈ (filed start fields).held) :
    held.saved = true ∧ held.model.value "tags" = tags := by
  have shown := List.mem_map_of_mem
    (f := fun held : Held => (held.model.key, held.model.get "tags", held.saved)) member
  rw [only, List.mem_singleton, Prod.mk.injEq, Prod.mk.injEq] at shown
  obtain ⟨-, got, saved⟩ := shown
  have fits := ((reached_filed start fields).sound (defined_notes start) rfl).fits held member
  have gives : held.model.get "tags" = .ok (held.model.value "tags") :=
    fits.get_eq (defined_notes start).distinct (filterable_noteTags start).member
  rw [gives] at got
  exact ⟨saved, Except.ok.inj got⟩

/-- A filter misses the note if the stored form of its tags does not satisfy the operator. -/
theorem misses_of_storedForm {start : Option Value} {fields : List (String × FieldArgument)}
    {op : Operator} {operand tags : Value} {q : Query}
    (accepted : (desk.client.query (notes start)).filter ((noteTags start).filterText op) operand =
      .ok q)
    (only : (filed start fields).held.map
      (fun held => (held.model.key, held.model.get "tags", held.saved)) =
        [(.ok ⟨[⟨"Note", some (.name "first")⟩]⟩, .ok tags, true)])
    (fails : op.holds ((noteTags start).storedForm tags) operand = false) :
    Misses start fields op operand tags := by
  have keys := congrArg (List.map Prod.fst) only
  rw [List.map_map] at keys
  have settled : Settled (filed start fields) := {
    saved := fun _ member => (cases_of_filed only member).1
    distinct := keys ▸ List.nodup_singleton _ }
  rcases ((reached_filed start fields).sound (defined_notes start) rfl).filter_finds settled
    (defined_notes start) rfl (filterable_noteTags start) desk accepted with ⟨es, q', ran, -, found⟩
  have nothing : es = [] := by
    rw [← List.map_eq_nil_iff, List.eq_nil_iff_forall_not_mem]
    intro key among
    rcases (found key).mp among with ⟨held, member, -, satisfies⟩
    have holds : op.holds ((noteTags start).storedForm (held.model.value "tags")) operand = true :=
      satisfies
    rw [(cases_of_filed only member).2, fails] at holds
    contradiction
  exact ⟨only, q, q', accepted, nothing ▸ ran⟩

/-- No filter finds a list that started from null, though the null that it holds equals null; and
what is in some values is found item by item, so a list that equals one of them is missed. -/
theorem filter_misses :
    (∀ start, (notes start).Defined ∧ (notes start).Filterable (noteTags start)) ∧
      (Misses (some .null) [] .equal .null .null ∧ Operator.equal.holds .null .null = true) ∧
      Misses none [("tags", .value (.list [.string "a"]))] .isIn (.list [.list [.string "a"]])
        (.list [.string "a"]) := by
  refine ⟨fun start => ⟨defined_notes start, filterable_noteTags start⟩, ⟨?_, rfl⟩, ?_⟩
  · exact misses_of_storedForm rfl rfl rfl
  · exact misses_of_storedForm rfl rfl rfl

end Session

end EntityStore
