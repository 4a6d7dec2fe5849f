import EntityStore.Proofs.Query.Saved
import EntityStore.Proofs.Schema.Registration

/-!
# Collections find what refers

A collection is listed on an instance when its kind, or one that it extends, has it.  The nearest
of these kinds decides which references it follows, and a query over the source kind is to find
the records that refer to the instance.  The query is made from the text of a filter, so it does so
exactly when that text leads back to the property and the property is indexed.
-/

namespace EntityStore

/-! ## Records that refer to a key -/

namespace Entity

/-- Whether a record refers to a key: a place that is indexed holds the key, by itself or in a
list. -/
def Refers (e : Entity) (name : String) (key : Key) : Prop :=
  e.isIndexed name = true ∧ ∃ v, e.get? name = some v ∧ .key key ∈ v.scalars

end Entity

/-- Only a key compares equal to a key. -/
theorem Operator.compares_key_iff {v : Value} {key : Key} :
    Operator.equal.compares v (.key key) = true ↔ v = .key key := by
  cases v with
  | key k =>
      have reading : (Value.key k).order (.key key) = compare (some k) (some key) := rfl
      rw [compares, reading]
      simp [Value.sameFamily, Value.family, accepts]
  | _ => simp [compares, Value.sameFamily, Value.family]

theorem Operator.holds_key_iff {stored : Value} {key : Key} :
    Operator.equal.holds stored (.key key) = true ↔ .key key ∈ stored.scalars := by
  rw [holds_eq_any_scalars, List.any_eq_true]
  constructor
  · rintro ⟨v, offered, equal⟩
    rwa [← compares_key_iff.mp equal]
  · intro offered
    exact ⟨.key key, offered, compares_key_iff.mpr rfl⟩

namespace Clause

variable {e : Entity} {name : String} {key : Key}

/-- A filter for a key lets pass the records that refer to it. -/
theorem accepts_key_iff (placed : name ≠ Key.propertyName) :
    accepts ⟨name, .equal, .key key⟩ e = true ↔ e.Refers name key := by
  rw [accepts, Entity.indexedValue, if_neg placed, Entity.Refers]
  by_cases indexed : e.isIndexed name = true
  · cases e.get? name <;> simp [indexed, Operator.holds_key_iff]
  · simp [indexed]

/-- Under the name of the key a filter compares the key of the record itself. -/
theorem accepts_ownKey_iff :
    accepts ⟨Key.propertyName, .equal, .key key⟩ e = true ↔ e.key = key := by
  rw [accepts, Entity.indexedValue, if_pos rfl]
  simp only [Operator.holds_key_iff, Value.scalars, List.mem_singleton, Value.key.injEq]
  exact eq_comm

end Clause

/-! ## The query of a collection -/

/-- Whether a filter for a reference property leads to the place where records keep it. -/
structure Schema.Followable (s : Schema) (p : Property) : Prop where
  named : ∃ word, FilterText.parse (p.attributeName ++ " =") = .ok (word, .equal) ∧
    (s.property? word).or (s.propertyByStorageName? word) = some p
  indexed : p.isIndexed = true
  placed : p.storageName ≠ Key.propertyName

namespace Schema

variable {s : Schema} {p : Property}

/-- A name without white space is read as it is. -/
theorem followable_iff (defined : s.Defined) (member : p ∈ s.properties)
    (named : p.attributeName ≠ "") (oneWord : p.attributeName.toList.all (!Text.isBlank ·) = true) :
    s.Followable p ↔ p.isIndexed = true ∧ p.storageName ≠ Key.propertyName := by
  constructor
  · intro followable
    exact ⟨followable.indexed, followable.placed⟩
  · rintro ⟨indexed, placed⟩
    have inked : ∀ c ∈ p.attributeName.toList, Text.isBlank c = false := by
      simpa using oneWord
    have read : FilterText.parse (p.attributeName ++ " =") = .ok (p.attributeName, .equal) := by
      have parsed := FilterText.parse_symbol named inked .equal
      rwa [String.append_assoc] at parsed
    refine ⟨⟨p.attributeName, read, ?_⟩, indexed, placed⟩
    rw [defined.distinct.property?_eq member, Option.some_or]

end Schema

namespace Client

variable {r : Registry} {m : Model} {name : String} {key : Key}

theorem mem_foldl_insert {names : Names} {entries : List (String × ReverseReference)} :
    name ∈ entries.foldl (fun names entry => names.insert entry.1) names ↔
      name ∈ names ∨ ∃ reverse, (name, reverse) ∈ entries := by
  induction entries generalizing names with
  | nil => simp
  | cons entry entries ih =>
      rw [List.foldl_cons, ih, Std.ExtTreeSet.mem_insert, Std.LawfulEqCmp.compare_eq_iff_eq]
      constructor
      · rintro ((rfl | before) | ⟨reverse, later⟩)
        · exact .inr ⟨entry.2, List.mem_cons_self⟩
        · exact .inl before
        · exact .inr ⟨reverse, List.mem_cons_of_mem entry later⟩
      · rintro (before | ⟨reverse, listed⟩)
        · exact .inl (.inr before)
        · rcases List.mem_cons.mp listed with rfl | later
          · exact .inl (.inl rfl)
          · exact .inr ⟨reverse, later⟩

/-- A collection is listed when a kind of the lineage has it. -/
theorem mem_reverseCollections_iff :
    name ∈ reverseCollections r m ↔
      ∃ kind ∈ m.schema.lineage, ∃ reverse, r.collection? kind name = some reverse := by
  have each : ∀ (kinds : List String) (names : Names),
      name ∈ kinds.foldl (fun names kind =>
        (r.collectionsOf kind).foldl (fun names name _ => names.insert name) names) names ↔
      name ∈ names ∨ ∃ kind ∈ kinds, ∃ reverse, r.collection? kind name = some reverse := by
    intro kinds
    induction kinds with
    | nil => simp
    | cons kind kinds ih =>
        intro names
        rw [List.foldl_cons, ih, Std.ExtTreeMap.foldl_eq_foldl_toList, mem_foldl_insert]
        simp only [Std.ExtTreeMap.mem_toList_iff_getElem?_eq_some, List.mem_cons, exists_eq_or_imp,
          Registry.collection?, or_assoc]
  rw [reverseCollections, Std.ExtTreeSet.mem_toList, each]
  simp

/-- With the nearest collection known, its query is the filter on the source kind. -/
theorem runOn_reverseCollection {around : Surroundings} {reverse : ReverseReference}
    {source : Schema}
    (nearest : m.schema.lineage.findSome? (around.registry.collection? · name) = some reverse)
    (registered : around.registry.kinds[reverse.sourceKind]? = some source)
    (keyed : m.key = .ok key) (s : Store) :
    (around.client.reverseCollection m name).runOn s =
      (((around.client.query source).filter (reverse.attr ++ " =") (.key key)).mapError .failure,
        s) := by
  have referred : reverseReference around.registry m name = .ok reverse := by
    rw [reverseReference, nearest]
    rfl
  have found : around.registry.schemaOf reverse.sourceKind = .ok source := by
    rw [Registry.schemaOf, registered]
    rfl
  have known : around.client.registry s = around.registry := rfl
  simp only [reverseCollection, Action.runOn_bind, Action.runOn_read, Action.runOn_lift, known,
    referred, found, keyed, Except.mapError]

end Client

/-! ## Following a reference back -/

section

variable {around : Surroundings} {source : Schema} {p : Property} {key : Key} {q q' : Query}
  {word : String} {place : String}

/-- A filter for a key that is read as a word and resolved to a place compares that place. -/
theorem FilterCall.holds_key_iff {text : String}
    (read : FilterText.parse text = .ok (word, .equal))
    (resolved : ({ schema := some source } : Query).resolveProperty word = .ok place)
    (e : Entity) :
    holds (some source) (.filter text (.key key)) e =
      Clause.accepts ⟨place, .equal, .key key⟩ e := by
  have meaning : alternatives (some source) (.filter text (.key key)) =
      .ok [⟨place, .equal, .key key⟩] := by
    simp only [alternatives, read]
    change (Query.resolveProperty _ _ >>= fun property => pure _) = _
    rw [resolved]
    rfl
  simp [holds_of_alternatives meaning]

/-- The name in the filter of a property that can be followed leads to its place. -/
theorem Schema.Followable.exists_resolved (followable : source.Followable p)
    (defined : source.Defined) :
    ∃ word, FilterText.parse (p.attributeName ++ " =") = .ok (word, .equal) ∧
      ({ schema := some source } : Query).resolveProperty word = .ok p.storageName := by
  obtain ⟨word, read, found⟩ := followable.named
  refine ⟨word, read, ?_⟩
  have notKey : word ≠ Key.propertyName := by
    rintro rfl
    rcases Option.or_eq_some_iff.mp found with byName | ⟨-, byPlace⟩
    · obtain ⟨member, same⟩ := Schema.property?_eq_some byName
      exact defined.attributeName_ne member same
    · exact followable.placed (by simpa using List.find?_some byPlace)
  simp only [Query.resolveProperty, notKey, if_false, found, followable.indexed, if_true]
  rfl

/-- A filter for a key is accepted when its word can be resolved. -/
theorem Query.filter_key_eq_ok {text : String}
    (read : FilterText.parse text = .ok (word, .equal))
    (resolved : q.resolveProperty word = .ok place) :
    q.filter text (.key key) = .ok (q.conjoin ⟨place, .equal, .key key⟩) := by
  have operand : checkKeyOperands place [.key key] = .ok () := by
    unfold checkKeyOperands
    split <;> rfl
  rw [filter, read]
  change (q.resolveProperty word >>= fun place => q.filterResolved place .equal (.key key)) = _
  rw [resolved]
  change (checkKeyOperands place [.key key] >>= fun _ => _) = _
  rw [operand]
  rfl

/-- What an accepted filter for a key has read and resolved. -/
theorem Query.exists_of_filter_equal {attr : String}
    (accepted : q.filter (attr ++ " =") (.key key) = .ok q') :
    ∃ word place, FilterText.parse (attr ++ " =") = .ok (word, .equal) ∧
      q.resolveProperty word = .ok place := by
  obtain ⟨⟨word, op⟩, read, accepted⟩ := Failure.exists_of_bind_eq_ok accepted
  obtain ⟨place, resolved, -⟩ := Failure.exists_of_bind_eq_ok accepted
  cases FilterText.eq_equal_of_parse read
  exact ⟨word, place, read, resolved⟩

/-- A place that is not the key is that of an indexed property, if a property is kept there. -/
theorem Query.indexed_of_resolveProperty (ofSchema : q.schema = some source)
    (distinct : source.Distinct) (member : p ∈ source.properties)
    (placed : p.storageName ≠ Key.propertyName)
    (resolved : q.resolveProperty word = .ok p.storageName) :
    (source.property? word).or (source.propertyByStorageName? word) = some p ∧
      p.isIndexed = true := by
  have notKey : word ≠ Key.propertyName := by
    rintro rfl
    rw [resolveProperty, if_pos rfl] at resolved
    exact placed (Except.ok.inj resolved).symm
  simp only [resolveProperty, notKey, if_false, ofSchema] at resolved
  split at resolved
  · rename_i p' found
    obtain ⟨indexed, same⟩ := Failure.require_eq_ok_iff.mp resolved
    have member' : p' ∈ source.properties := by
      rcases Option.or_eq_some_iff.mp found with byName | ⟨-, byPlace⟩
      · exact List.mem_of_find?_eq_some byName
      · exact List.mem_of_find?_eq_some byPlace
    cases distinct.eq_of_storageName member' member (Failure.pure_eq_ok_iff.mp same)
    exact ⟨found, indexed⟩
  · rename_i unknown
    obtain ⟨-, same⟩ := Failure.require_eq_ok_iff.mp resolved
    cases Failure.pure_eq_ok_iff.mp same
    have absent := List.find?_eq_none.mp (Option.or_eq_none_iff.mp unknown).2 p member
    simp at absent

end

/-! ## Collections of registered kinds -/

/-- A registry without redefinition that definitions have filled, one after the other. -/
inductive Registry.Built : Registry → Prop where
  | empty : Built (.empty false)
  | define {r r' : Registry} {d : Definition} {s : Schema} (built : Built r)
      (bases : ∀ base ∈ d.bases, base.Defined) (defined : r.define d = .ok (s, r')) : Built r'

theorem Registry.Built.exists_knows {r : Registry} (built : r.Built) :
    r.allowRedefinition = false ∧ ∃ schemas, (∀ s ∈ schemas, s.Defined) ∧ r.Knows schemas := by
  induction built with
  | empty => exact ⟨rfl, [], nofun, knows_empty false⟩
  | define built bases defined known =>
      obtain ⟨fixed, schemas, areDefined, knows⟩ := known
      obtain ⟨assembled, outcome⟩ := define_eq_ok_iff.mp defined
      split at outcome
      · subst outcome
        exact ⟨fixed, schemas, areDefined, knows⟩
      · refine ⟨?_, _, ?_, knows.register outcome⟩
        · obtain ⟨-, rfl⟩ := register_eq_ok_iff.mp outcome
          exact fixed
        · exact List.forall_mem_append.mpr
            ⟨areDefined, List.forall_mem_singleton.mpr (.assemble bases assembled)⟩

namespace Client

variable {around : Surroundings} {m : Model} {name : String} {key : Key}
  {reverse : ReverseReference} {source : Schema} {p : Property}

/-- Whether a collection can be opened and running its query lists, in the order of the keys, the
records of the source kind that refer to a key, whatever the store holds. -/
def Finds (around : Surroundings) (m : Model) (name : String) (reverse : ReverseReference)
    (key : Key) : Prop :=
  ∀ s : Store, ∃ q es q', (around.client.reverseCollection m name).runOn s = (.ok q, s) ∧
    (Execution.run around.client).runOn (q, s) = (.ok es, (q', s)) ∧
    Listing [] (fun e => e ∈ s.entities ∧ e.kind = reverse.sourceKind ∧
      e.Refers reverse.storage key) es

theorem finds_of_followable (defined : source.Defined) (kind : source.kind = reverse.sourceKind)
    (attr : p.attributeName = reverse.attr) (storage : p.storageName = reverse.storage)
    (nearest : m.schema.lineage.findSome? (around.registry.collection? · name) = some reverse)
    (registered : around.registry.kinds[reverse.sourceKind]? = some source)
    (keyed : m.key = .ok key) (followable : source.Followable p) :
    Finds around m name reverse key := by
  intro s
  obtain ⟨word, read, resolved⟩ := followable.exists_resolved defined
  have accepted : FilterCall.apply (around.client.query source)
      (.filter (p.attributeName ++ " =") (.key key)) = .ok _ :=
    Query.filter_key_eq_ok read resolved
  obtain ⟨es, q', ran, listing⟩ := Execution.run_filter around accepted s
  refine ⟨_, es, q', ?_, ran, listing.congr fun e => ?_⟩
  · rw [runOn_reverseCollection nearest registered keyed, ← attr]
    exact congrArg (fun outcome => (outcome.mapError Interruption.failure, s)) accepted
  · rw [FilterCall.holds_key_iff read resolved, Clause.accepts_key_iff followable.placed, kind,
      storage]

/-- A record of the source kind that refers to a key and holds nothing else. -/
def referring (reverse : ReverseReference) (key : Key) : Entity where
  key := ⟨key.path ++ [⟨reverse.sourceKind, some (.number 1)⟩]⟩
  fields := (∅ : Fields).insert reverse.storage (.key key)

theorem referring_spec (reverse : ReverseReference) (key : Key) :
    (referring reverse key).kind = reverse.sourceKind ∧ (referring reverse key).key ≠ key ∧
      (referring reverse key).Refers reverse.storage key ∧
      ∀ place, (referring reverse key).Refers place key → place = reverse.storage := by
  refine ⟨?_, ?_, ⟨?_, .key key, ?_, List.mem_singleton.mpr rfl⟩, ?_⟩
  · simp [referring, Entity.kind, Key.kind]
  · intro same
    have lengths := congrArg (·.path.length) same
    simp [referring] at lengths
  · simp [referring, Entity.isIndexed]
  · simp [referring, Entity.get?]
  · rintro place ⟨-, v, held, -⟩
    simp only [referring, Entity.get?, Std.ExtTreeMap.getElem?_insert] at held
    split at held
    · rename_i same
      exact (Std.LawfulEqOrd.eq_of_compare same).symm
    · simp at held

theorem followable_of_finds (distinct : source.Distinct) (member : p ∈ source.properties)
    (attr : p.attributeName = reverse.attr) (storage : p.storageName = reverse.storage)
    (nearest : m.schema.lineage.findSome? (around.registry.collection? · name) = some reverse)
    (registered : around.registry.kinds[reverse.sourceKind]? = some source)
    (keyed : m.key = .ok key) (finds : Finds around m name reverse key) :
    source.Followable p := by
  let s := ({} : Store).write (referring reverse key).key (some (referring reverse key))
  obtain ⟨q, es, q', opened, ran, listing⟩ := finds s
  have accepted : FilterCall.apply (around.client.query source)
      (.filter (p.attributeName ++ " =") (.key key)) = .ok q := by
    change (around.client.query source).filter (p.attributeName ++ " =") (.key key) = .ok q
    rw [runOn_reverseCollection nearest registered keyed, ← attr] at opened
    cases answered : (around.client.query source).filter (p.attributeName ++ " =") (.key key) with
    | error cause => simp [answered, Except.mapError] at opened
    | ok q₁ => simpa [answered, Except.mapError] using opened
  obtain ⟨word, place, read, resolved⟩ := Query.exists_of_filter_equal accepted
  obtain ⟨kindOf, otherKey, refers, onlyPlace⟩ := referring_spec reverse key
  have found : Clause.accepts ⟨place, .equal, .key key⟩ (referring reverse key) = true := by
    have stored : referring reverse key ∈ s.entities := by
      rw [Store.mem_entities, Store.getElem?_write, if_pos rfl]
      rfl
    have listed := (listing.mem_iff _).mpr ⟨stored, kindOf, refers⟩
    obtain ⟨es', q'', ran', listing'⟩ := Execution.run_filter around accepted s
    rw [ran] at ran'
    cases ran'
    rw [← FilterCall.holds_key_iff read resolved]
    exact ((listing'.mem_iff _).mp listed).2.2
  have placed : place ≠ Key.propertyName := by
    rintro rfl
    exact otherKey (Clause.accepts_ownKey_iff.mp found)
  obtain rfl : place = p.storageName := by
    rw [storage]
    exact onlyPlace place ((Clause.accepts_key_iff placed).mp found)
  obtain ⟨named, indexed⟩ :=
    Query.indexed_of_resolveProperty rfl distinct member placed resolved
  exact ⟨⟨word, read, named⟩, indexed, placed⟩

/-- Every collection that is listed on an instance with a key comes from the nearest kind of its
lineage that has it, and from a reference that the registered schema of the source kind declares.
It can be opened and finds the records that refer to the instance, in every store, exactly when a
filter can follow that reference. -/
theorem listed_finds_iff (built : around.registry.Built) (keyed : m.key = .ok key)
    (listed : name ∈ reverseCollections around.registry m) :
    ∃ nearer kind further reverse source p, m.schema.lineage = nearer ++ kind :: further ∧
      (∀ other ∈ nearer, around.registry.collection? other name = none) ∧
      around.registry.collection? kind name = some reverse ∧
      around.registry.kinds[reverse.sourceKind]? = some source ∧
      (p ∈ source.declaredProperties ∧ p.RefersTo kind name ∧
        p.attributeName = reverse.attr ∧ p.storageName = reverse.storage) ∧
      (Finds around m name reverse key ↔ source.Followable p) := by
  obtain ⟨fixed, schemas, defined, knows⟩ := built.exists_knows
  obtain ⟨kind₀, inLineage, reverse₀, has⟩ := mem_reverseCollections_iff.mp listed
  cases nearest : m.schema.lineage.findSome? (around.registry.collection? · name) with
  | none =>
      rw [List.findSome?_eq_none_iff.mp nearest kind₀ inLineage] at has
      contradiction
  | some reverse =>
      obtain ⟨nearer, kind, further, lineage, found, without⟩ :=
        List.findSome?_eq_some_iff.mp nearest
      obtain ⟨p, ⟨source, registered, declared, refers⟩, attr, storage⟩ :=
        (knows.inStep fixed).sourced kind name reverse found
      obtain ⟨known, sourceKind⟩ := knows.of_kinds registered
      refine ⟨nearer, kind, further, reverse, source, p, lineage, without, found, registered,
        ⟨declared, refers, attr, storage⟩, ?_⟩
      constructor
      · exact followable_of_finds (defined source known).distinct
          (Schema.mem_properties_of_declared declared) attr storage nearest registered keyed
      · exact finds_of_followable (defined source known) sourceKind attr storage nearest registered
          keyed

/-- A client for stories and their comments. -/
def newsdesk (comment : Schema) : Surroundings where
  registry := ((Registry.empty false).withSchema (Registry.story "title")).withSchema comment
  moment := ⟨⟨.epoch, .midnight⟩, none⟩
  configuration := {}

/-- A story with a key. -/
def headline : Model where
  schema := Registry.story "title"
  identity := .key ⟨[⟨"Story", some (.number 1)⟩]⟩

theorem built_newsdesk {d : Definition} {comment : Schema} (bases : d.bases = [])
    (defined : ((Registry.empty false).withSchema (Registry.story "title")).define d =
      .ok (comment, (newsdesk comment).registry)) : (newsdesk comment).registry.Built := by
  have first : (Registry.empty false).define (Registry.storyDefinition "title") =
      .ok (Registry.story "title", (Registry.empty false).withSchema (Registry.story "title")) :=
    rfl
  refine .define (.define .empty ?_ first) ?_ defined
  · exact fun _ member => absurd member List.not_mem_nil
  · exact fun _ member => absurd (bases ▸ member) List.not_mem_nil

theorem kinds_newsdesk (comment : Schema) :
    (newsdesk comment).registry.kinds[comment.kind]? = some comment := by
  rw [newsdesk, Registry.kinds_withSchema, if_pos rfl]

theorem collection?_newsdesk :
    (newsdesk Registry.comment).registry.collection? "Story" "comments" =
      some ⟨"Comment", "story", "story"⟩ := by
  decide +kernel

/-- The collection of comments on a story finds the comments that refer to it. -/
theorem finds_comments :
    ((newsdesk Registry.comment).registry.Built ∧
      headline.key = .ok ⟨[⟨"Story", some (.number 1)⟩]⟩ ∧
      "comments" ∈ reverseCollections (newsdesk Registry.comment).registry headline) ∧
    Finds (newsdesk Registry.comment) headline "comments" ⟨"Comment", "story", "story"⟩
      ⟨[⟨"Story", some (.number 1)⟩]⟩ := by
  have built : (newsdesk Registry.comment).registry.Built :=
    built_newsdesk (d := Registry.commentDefinition) rfl rfl
  have keyed : headline.key = .ok ⟨[⟨"Story", some (.number 1)⟩]⟩ := rfl
  have listed : "comments" ∈ reverseCollections (newsdesk Registry.comment).registry headline :=
    mem_reverseCollections_iff.mpr ⟨"Story", List.mem_cons_self, _, collection?_newsdesk⟩
  refine ⟨⟨built, keyed, listed⟩, ?_⟩
  obtain ⟨nearer, kind, further, reverse, source, p, lineage, -, found, registered,
    ⟨declared, -, attr, -⟩, finds⟩ := listed_finds_iff built keyed listed
  have onlyKind : kind ∈ ["Story"] := by
    rw [show ["Story"] = nearer ++ kind :: further from lineage]
    exact List.mem_append_right _ List.mem_cons_self
  cases List.mem_singleton.mp onlyKind
  cases collection?_newsdesk.symm.trans found
  cases (kinds_newsdesk Registry.comment).symm.trans registered
  have member := Schema.mem_properties_of_declared declared
  have followable := (Schema.followable_iff Registry.defined_comment member (by simp [attr])
    (by rw [attr]; rfl)).mpr
  refine finds.mpr (followable ?_)
  rcases List.mem_cons.mp member with rfl | others
  · exact ⟨rfl, by decide⟩
  · rw [List.mem_singleton.mp others] at attr
    contradiction

/-- A comment that refers to its story through a property that is not indexed. -/
def mutedDefinition : Definition where
  kind := "Comment"
  declared :=
    [("story", { kind := .reference ⟨.kind "Story", some "comments"⟩, indexed := some false })]

/-- What the definition puts together. -/
def mutedComment : Schema where
  kind := "Comment"
  properties :=
    [{ kind := .reference ⟨.kind "Story", some "comments"⟩, binding := some ⟨"Comment", "story"⟩,
       storage := some "story", indexed := some false }]
  declared := ["story"]
  unindexed := .ofList ["story"]
  ancestry := []
  isExpando := false
  isAbstract := false

/-- The collection of comments that refer to a story without an index is listed, but in no store
can it be opened. -/
theorem muted_comments :
    ((newsdesk mutedComment).registry.Built ∧
      headline.key = .ok ⟨[⟨"Story", some (.number 1)⟩]⟩ ∧
      "comments" ∈ reverseCollections (newsdesk mutedComment).registry headline) ∧
    ∀ s : Store, ((newsdesk mutedComment).client.reverseCollection headline "comments").runOn s =
      (.error (.failure (.propertyNotIndexed "story")), s) := by
  have found : (newsdesk mutedComment).registry.collection? "Story" "comments" =
      some ⟨"Comment", "story", "story"⟩ := by
    decide +kernel
  have listed : "comments" ∈ reverseCollections (newsdesk mutedComment).registry headline :=
    mem_reverseCollections_iff.mpr ⟨"Story", List.mem_cons_self, _, found⟩
  have built : (newsdesk mutedComment).registry.Built :=
    built_newsdesk (d := mutedDefinition) rfl rfl
  refine ⟨⟨built, rfl, listed⟩, fun s => ?_⟩
  have nearest : headline.schema.lineage.findSome?
      ((newsdesk mutedComment).registry.collection? · "comments") =
        some ⟨"Comment", "story", "story"⟩ := by
    change ["Story"].findSome? _ = _
    rw [List.findSome?_cons, found]
  rw [runOn_reverseCollection nearest (kinds_newsdesk mutedComment) rfl s]
  rfl

end Client

end EntityStore
