import EntityStore.Proofs.Model.Record
import EntityStore.Proofs.Query.FilterText
import EntityStore.Proofs.Schema.Names
import EntityStore.Query.Builder

/-!
# Properties are addressed as themselves

Filters and orders speak of a property by its attribute, records keep it under its storage name, and
what filters and orders see under a name is the value that records keep there.  So a property that
is indexed is seen as it was stored, unless its storage name is the name of the key: there, only the
key of the record is ever seen.

Schemas let attributes have names that no text can speak of: filter texts split names at white
space, and an order takes a hyphen in front for a sign.
-/

namespace EntityStore

/-- How a query takes a property that is named by its attribute: as what records keep in the place
of the property. -/
structure Query.LeadsTo (q : Query) (p : Property) : Prop where
  filter_eq : ∀ text op operand, FilterText.parse text = .ok (p.attributeName, op) →
    q.filter text operand = q.filterResolved p.storageName op operand
  filterDisjunction_eq : ∀ operators values,
    q.filterDisjunction p.attributeName operators values =
      checkKeyOperands p.storageName (values.map Value.widen) >>= fun _ =>
        q.disjoin p.storageName operators (values.map Value.widen)
  order_eq : ∀ text direction, parseOrder text = (p.attributeName, direction) →
    q.order text = .ok { q with orders := q.orders ++ [⟨p.storageName, direction⟩] }

/-- How a property is spoken of by its attribute, and what is seen of it in records. -/
structure Schema.Addresses (s : Schema) (p : Property) : Prop where
  leadsTo : ∀ q : Query, q.schema = some s → q.LeadsTo p
  filterText_iff : ∀ op, (∃ text, FilterText.parse text = .ok (p.attributeName, op)) ↔
    p.attributeName ≠ "" ∧ FilterText.Inked p.attributeName.toList
  ascending_iff : ∀ text, Query.parseOrder text = (p.attributeName, .ascending) ↔
    text = p.attributeName ∧ p.attributeName.toList.head? ≠ some '-'
  descending_iff : ∀ text, Query.parseOrder text = (p.attributeName, .descending) ↔
    text = "-" ++ p.attributeName
  /-- A record keeps what the property stores, and it is seen unless the key is in front of it. -/
  seen_iff : ∀ (m : Model) moment e, m.schema = s → m.toEntity moment = .ok e →
    ∃ stored, p.valueForStorage (m.value p.attributeName) moment = .ok stored ∧
      e.get? p.storageName = stored.field? ∧
      (e.indexedValue p.storageName = stored.field? ↔
        p.storageName ≠ Key.propertyName ∨ stored.field? = some (.key e.key))

/-! ## Texts -/

namespace FilterText

/-- A name can be written in filter texts if it has characters and no white space. -/
theorem exists_parse_iff {name : String} (op : Operator) :
    (∃ text, parse text = .ok (name, op)) ↔ name ≠ "" ∧ Inked name.toList := by
  constructor
  · rintro ⟨text, read⟩
    rcases (parse_eq_ok_iff.mp read).inked with ⟨named, inked⟩
    exact ⟨by simpa using named, inked⟩
  · rintro ⟨named, inked⟩
    exact ⟨_, parse_symbol named inked op⟩

end FilterText

namespace Query

variable {q : Query} {text name : String}

theorem parseOrder_ascending_iff :
    parseOrder text = (name, .ascending) ↔ text = name ∧ name.toList.head? ≠ some '-' := by
  unfold parseOrder
  split
  next rest signed =>
    constructor
    · simp
    · rintro ⟨rfl, unsigned⟩
      simp [signed] at unsigned
  next unsigned =>
    simp only [Prod.mk.injEq, and_true, iff_self_and]
    rintro rfl first
    rcases List.head?_eq_some_iff.mp first with ⟨rest, signed⟩
    exact unsigned rest signed

theorem parseOrder_descending_iff :
    parseOrder text = (name, .descending) ↔ text = "-" ++ name := by
  unfold parseOrder
  split
  next rest signed =>
    simp only [Prod.mk.injEq, and_true, ← String.toList_inj, signed]
    simp
  next unsigned =>
    constructor
    · simp
    · rintro rfl
      exact absurd (by simp) (unsigned name.toList)

/-! ## Queries -/

variable {s : Schema} {p : Property}

theorem resolveProperty_attributeName (defined : s.Defined) (member : p ∈ s.properties)
    (indexed : p.isIndexed = true) (ofSchema : q.schema = some s) :
    q.resolveProperty p.attributeName = .ok p.storageName := by
  have notKey := defined.attributeName_ne member
  have found := defined.distinct.property?_eq member
  simp only [resolveProperty, notKey, if_false, ofSchema, found, Option.some_or, indexed, if_true]
  rfl

theorem leadsTo_of_resolveProperty (ofSchema : q.schema = some s)
    (resolved : q.resolveProperty p.attributeName = .ok p.storageName) : q.LeadsTo p where
  filter_eq text op operand read := by
    rw [filter, read]
    change (q.resolveProperty _ >>= fun place => q.filterResolved place op operand) = _
    rw [resolved]
    rfl
  filterDisjunction_eq operators values := by
    rw [filterDisjunction, resolved]
    rfl
  order_eq text direction read := by
    rw [order, read]
    simp [ofSchema, resolved]

end Query

/-! ## Records -/

/-- What is seen of an indexed field is the field itself, except under the name of the key. -/
theorem Entity.indexedValue_eq_iff {e : Entity} {name : String} (indexed : e.isIndexed name = true)
    {v : Option Value} (kept : e.get? name = v) :
    e.indexedValue name = v ↔ name ≠ Key.propertyName ∨ v = some (.key e.key) := by
  by_cases isKey : name = Key.propertyName
  · simp [indexedValue, isKey, eq_comm]
  · simp [indexedValue, isKey, indexed, kept]

theorem Model.exists_stored_of_toEntity {m : Model} {s : Schema} {p : Property} {moment : Moment}
    {e : Entity} (defined : s.Defined) (closed : s.isExpando = false) (member : p ∈ s.properties)
    (ofSchema : m.schema = s) (recorded : m.toEntity moment = .ok e) :
    ∃ stored, p.valueForStorage (m.value p.attributeName) moment = .ok stored ∧
      e.get? p.storageName = stored.field? ∧ e.unindexed = s.unindexed := by
  subst ofSchema
  rcases toEntity_eq_ok recorded with ⟨start, declared, -, written, -, rfl⟩
  rcases exists_of_writeProperties defined.distinct member written with ⟨stored, made, kept⟩
  refine ⟨stored, made, ?_, ?_⟩
  · simpa [closed, Entity.get?] using kept
  · simp [unindexedNames, closed]

theorem Schema.Defined.isIndexed_of_unindexed_eq {s : Schema} {p : Property} {e : Entity}
    (defined : s.Defined) (member : p ∈ s.properties) (indexed : p.isIndexed = true)
    (same : e.unindexed = s.unindexed) : e.isIndexed p.storageName = true := by
  have outside := defined.not_mem_unindexed member indexed
  rw [Entity.isIndexed, same, Bool.not_eq_true', Bool.eq_false_iff]
  exact fun inside => outside (Std.ExtTreeSet.mem_iff_contains.mpr inside)

/-- Filters and orders lead from the attribute of an indexed property to the place where records
keep it, and in the records of a closed kind they see there what the property stored, exactly unless
the place has the name of the key and something else was stored there. -/
theorem Schema.addresses_of_defined {s : Schema} {p : Property} (defined : s.Defined)
    (closed : s.isExpando = false) (member : p ∈ s.properties) (indexed : p.isIndexed = true) :
    s.Addresses p where
  leadsTo q ofSchema := Query.leadsTo_of_resolveProperty ofSchema
    (Query.resolveProperty_attributeName defined member indexed ofSchema)
  filterText_iff := FilterText.exists_parse_iff
  ascending_iff _ := Query.parseOrder_ascending_iff
  descending_iff _ := Query.parseOrder_descending_iff
  seen_iff m moment e ofSchema recorded := by
    rcases m.exists_stored_of_toEntity defined closed member ofSchema recorded with
      ⟨stored, made, kept, unindexed⟩
    have isIndexed := defined.isIndexed_of_unindexed_eq member indexed unindexed
    exact ⟨stored, made, kept, Entity.indexedValue_eq_iff isIndexed kept⟩

/-- A rank that records keep under a given name. -/
def rankAt (place : String) : Property where
  kind := .integer
  binding := some ⟨"Story", "rank"⟩
  storage := some place

/-- A title that records keep under the attribute of the rank. -/
def titleAtRank : Property where
  kind := .string false
  binding := some ⟨"Story", "title"⟩
  storage := some "rank"

/-- A story with both properties. -/
def rankedDefinition (place : String) : Definition where
  kind := "Story"
  declared := [("title", { kind := .string false, storage := some "rank" }),
    ("rank", { kind := .integer, storage := some place })]

/-- What the definition puts together. -/
def rankedSchema (place : String) : Schema where
  kind := "Story"
  properties := [titleAtRank, rankAt place]
  declared := ["title", "rank"]
  unindexed := ∅
  ancestry := []
  isExpando := false
  isAbstract := false

/-- A story with a title and a rank. -/
def rankedBuilder (place : String) : Builder where
  schema := rankedSchema place
  name := some "first"
  fields := [("title", .value (.string "One")), ("rank", .value (.integer 5))]

theorem addresses_rank_at_title :
    (rankedSchema "title").Defined ∧ rankAt "title" ∈ (rankedSchema "title").properties ∧
      ∃ m e, (rankedBuilder "title").build ⟨⟨.epoch, .midnight⟩, none⟩ = .ok m ∧
        m.toEntity ⟨⟨.epoch, .midnight⟩, none⟩ = .ok e ∧
        e.indexedValue (rankAt "title").storageName = some (.integer 5) ∧
        ({ schema := some (rankedSchema "title") } : Query).order "-rank" =
          .ok { schema := some (rankedSchema "title"), orders := [⟨"title", .descending⟩] } := by
  have defined : (rankedSchema "title").Defined :=
    .assemble (d := rankedDefinition "title") nofun rfl
  have member : rankAt "title" ∈ (rankedSchema "title").properties :=
    List.mem_cons_of_mem _ List.mem_cons_self
  have addresses := Schema.addresses_of_defined defined rfl member rfl
  obtain ⟨m, e, built, recorded, ofSchema, held⟩ : ∃ m e,
      (rankedBuilder "title").build ⟨⟨.epoch, .midnight⟩, none⟩ = .ok m ∧
        m.toEntity ⟨⟨.epoch, .midnight⟩, none⟩ = .ok e ∧ m.schema = rankedSchema "title" ∧
          m.value (rankAt "title").attributeName = .integer 5 :=
    ⟨_, _, rfl, rfl, rfl, rfl⟩
  rcases addresses.seen_iff m _ e ofSchema recorded with ⟨stored, made, -, seen⟩
  rw [held] at made
  cases made
  exact ⟨defined, member, m, e, built, recorded, seen.mpr (.inl (by decide)),
    (addresses.leadsTo _ rfl).order_eq "-rank" .descending rfl⟩

/-- Under the name of the key the rank is kept but never seen: the key of the record stands in front
of it, and filters take only keys. -/
theorem rank_behind_key :
    (rankedSchema "__key__").Defined ∧ (rankedSchema "__key__").isExpando = false ∧
      rankAt "__key__" ∈ (rankedSchema "__key__").properties ∧
      (rankAt "__key__").isIndexed = true ∧
      ∃ m e, (rankedBuilder "__key__").build ⟨⟨.epoch, .midnight⟩, none⟩ = .ok m ∧
        m.toEntity ⟨⟨.epoch, .midnight⟩, none⟩ = .ok e ∧
        e.get? (rankAt "__key__").storageName = some (.integer 5) ∧
        e.indexedValue (rankAt "__key__").storageName =
          some (.key ⟨[⟨"Story", some (.name "first")⟩]⟩) ∧
        ({ schema := some (rankedSchema "__key__") } : Query).filter "rank =" (.integer 5) =
          .error (.keyOperand .integer) := by
  have defined : (rankedSchema "__key__").Defined :=
    .assemble (d := rankedDefinition "__key__") nofun rfl
  have member : rankAt "__key__" ∈ (rankedSchema "__key__").properties :=
    List.mem_cons_of_mem _ List.mem_cons_self
  exact ⟨defined, rfl, member, rfl, _, _, rfl, rfl, rfl, rfl, rfl⟩

end EntityStore
