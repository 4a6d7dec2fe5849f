import EntityStore.Proofs.Schema.Coverage
import EntityStore.Proofs.Schema.Indexes
import Mathlib.Logic.Relation

/-!
# Schemas and what they extend

A pedigree says how a schema came about: what it was defined from, and how each of its bases came
about.  Whenever all definitions of a pedigree have succeeded, each in a registry of its own time,
the schema at its root has all that it inherits and declares, in order and under names that lead to
it alone, and knows exactly the kinds of the schemas that it reaches through its bases.
-/

namespace EntityStore

namespace Definition

variable {d : Definition} {s : Schema} {kind : String} {properties properties' : List Property}

/-! ## Declared properties -/

theorem exists_of_foldlM_declareProperty {declared : List (String × Property)}
    (declares : declared.foldlM (declareProperty kind) properties = .ok properties') :
    ∃ own, properties' = properties ++ own ∧ List.Forall₂ (Binds kind) declared own := by
  induction declared generalizing properties with
  | nil =>
      cases Failure.pure_eq_ok_iff.mp declares
      exact ⟨[], (List.append_nil _).symm, .nil⟩
  | cons first rest inductionHypothesis =>
      rw [List.foldlM_cons, Failure.bind_eq_ok_iff] at declares
      rcases declares with ⟨next, declaresFirst, declaresRest⟩
      rcases exists_of_declareProperty declaresFirst with ⟨-, -, bound, binds, rfl⟩
      rcases inductionHypothesis declaresRest with ⟨own, rfl, bindsRest⟩
      exact ⟨bound :: own, List.append_assoc properties [bound] own, .cons binds bindsRest⟩

theorem attributes_of_forall₂_binds {declared : List (String × Property)} {own : List Property}
    (binds : List.Forall₂ (Binds kind) declared own) :
    attributes own = declared.map (·.1) := by
  induction binds with
  | nil => rfl
  | cons first _ inductionHypothesis =>
      rw [List.map_cons, ← inductionHypothesis, ← attributeName_bind first]
      rfl

theorem filterMap_property?_attributes (distinct : s.Distinct)
    (subset : ∀ p ∈ properties, p ∈ s.properties) :
    (attributes properties).filterMap s.property? = properties := by
  rw [attributes, List.filterMap_map]
  calc properties.filterMap (s.property? ∘ fun p => p.attributeName)
      = properties.filterMap some :=
        List.filterMap_congr fun p member => distinct.property?_eq (subset p member)
    _ = properties := List.filterMap_some

/-! ## Inherited properties -/

/-- Whether two properties go by one attribute. -/
def sameAttribute (p q : Property) : Bool :=
  p.attributeName == q.attributeName

theorem inheritProperty_eq {p : Property}
    (inherits : inheritProperty properties p = .ok properties') :
    properties' = if properties.any (sameAttribute p) then properties else properties ++ [p] := by
  rcases cases_of_inheritProperty inherits with ⟨q, found, -, unchanged⟩ | ⟨absent, appended⟩
  · have known : properties.any (sameAttribute p) = true := by
      obtain ⟨member, named⟩ := mem_of_named? found
      exact List.any_eq_true.mpr ⟨q, member, by simp [sameAttribute, named]⟩
    rw [unchanged, if_pos known]
  · have unknown : properties.any (sameAttribute p) = false := by
      rw [List.any_eq_false]
      intro q member same
      have named : q.attributeName = p.attributeName := (beq_iff_eq.mp same).symm
      exact List.find?_eq_none.mp absent q member (decide_eq_true named)
    rw [appended, unknown, if_neg Bool.false_ne_true]

/-- Merging keeps the first property of each attribute. -/
theorem eq_eraseDupsBy_of_foldlM_inheritProperty {more : List Property}
    (inherits : more.foldlM inheritProperty properties = .ok properties') :
    properties' = properties ++
      (more.filter fun p => !properties.any (sameAttribute p)).eraseDupsBy sameAttribute := by
  induction more generalizing properties with
  | nil =>
      cases Failure.pure_eq_ok_iff.mp inherits
      exact (List.append_nil _).symm
  | cons p more inductionHypothesis =>
      rw [List.foldlM_cons, Failure.bind_eq_ok_iff] at inherits
      rcases inherits with ⟨next, first, inherits⟩
      have rest := inductionHypothesis inherits
      rw [inheritProperty_eq first] at rest
      cases known : properties.any (sameAttribute p) with
      | true =>
          rw [known, if_pos rfl] at rest
          rw [rest, List.filter_cons, known]
          rfl
      | false =>
          rw [known, if_neg Bool.false_ne_true, List.append_assoc] at rest
          rw [rest, List.filter_cons, known, Bool.not_false, if_pos rfl, List.eraseDupsBy_cons,
            List.filter_filter, List.singleton_append]
          congr 4
          funext q
          simp [Bool.and_comm]

/-! ## Kinds -/

theorem mem_addKind {kinds : List String} {new : String} :
    kind ∈ addKind kinds new ↔ kind ∈ kinds ∨ kind = new := by
  rw [addKind]
  split
  next known =>
    refine ⟨.inl, ?_⟩
    rintro (member | rfl)
    · exact member
    · exact List.contains_iff_mem.mp known
  next => rw [List.mem_append, List.mem_singleton]

theorem nodup_addKind {kinds : List String} {new : String} (distinct : kinds.Nodup) :
    (addKind kinds new).Nodup := by
  rw [addKind]
  split
  next => exact distinct
  next unknown =>
    refine List.nodup_append.mpr ⟨distinct, List.nodup_singleton new, ?_⟩
    rintro kind member _ last rfl
    rw [List.mem_singleton.mp last] at member
    exact unknown (List.contains_iff_mem.mpr member)

theorem mem_foldl_addKind {kinds more : List String} :
    kind ∈ more.foldl addKind kinds ↔ kind ∈ kinds ∨ kind ∈ more := by
  induction more generalizing kinds with
  | nil => simp
  | cons first more inductionHypothesis =>
      rw [List.foldl_cons, inductionHypothesis, mem_addKind, List.mem_cons, or_assoc]

theorem nodup_foldl_addKind {kinds more : List String} (distinct : kinds.Nodup) :
    (more.foldl addKind kinds).Nodup :=
  List.foldlRecOn more addKind distinct fun _ distinct _ _ => nodup_addKind distinct

end Definition

/-! ## Pedigrees -/

/-- How a schema came about: what it was defined from, and how its bases came about. -/
inductive Pedigree where
  | define (definition : Definition) (schema : Schema) (bases : List Pedigree)

namespace Pedigree

/-- What the schema was defined from. -/
def definition : Pedigree → Definition
  | define d _ _ => d

/-- The schema that came about. -/
def schema : Pedigree → Schema
  | define _ s _ => s

/-- How the bases came about. -/
def bases : Pedigree → List Pedigree
  | define _ _ bases => bases

/-- Whether every schema of a pedigree was defined from the schemas of its bases, in some
registry. -/
inductive Built : Pedigree → Prop where
  | define {d : Definition} {s : Schema} {bases : List Pedigree} {r r' : Registry}
      (built : ∀ base ∈ bases, base.Built) (sameBases : d.bases = bases.map schema)
      (defined : r.define d = .ok (s, r')) : Built (define d s bases)

/-- Whether one schema extends another, directly or through its bases. -/
def Reaches : Pedigree → Pedigree → Prop :=
  Relation.TransGen fun t base => base ∈ t.bases

variable {t base above : Pedigree} {kind : String}

theorem reaches_iff : t.Reaches above ↔ ∃ base ∈ t.bases, above = base ∨ base.Reaches above := by
  rw [Reaches, Relation.TransGen.head'_iff]
  simp only [Relation.reflTransGen_iff_eq_or_transGen]

theorem Built.assemble_eq (built : t.Built) : t.definition.assemble = .ok t.schema := by
  cases built with
  | define _ _ defined => exact (Registry.define_eq_ok_iff.mp defined).1

theorem Built.bases_eq (built : t.Built) : t.definition.bases = t.bases.map schema := by
  cases built with
  | define _ sameBases _ => exact sameBases

theorem Built.defined (built : t.Built) : t.schema.Defined := by
  induction built with
  | define _ sameBases defined inductionHypothesis =>
      refine .assemble ?_ (Registry.define_eq_ok_iff.mp defined).1
      rw [sameBases, List.forall_mem_map]
      exact inductionHypothesis

/-- Every schema that definitions have built in one registry has a pedigree. -/
theorem exists_built_of_builds {schemas : List Schema} {r : Registry}
    (builds : Registry.Builds schemas r) :
    ∀ s ∈ schemas, ∃ t : Pedigree, t.Built ∧ t.schema = s := by
  induction builds with
  | none => exact nofun
  | @define schemas r r' d s _ bases defined inductionHypothesis =>
      rw [List.forall_mem_append, List.forall_mem_singleton]
      refine ⟨inductionHypothesis, ?_⟩
      have pedigrees : ∀ base ∈ d.bases, ∃ t : Pedigree, t.Built ∧ t.schema = base :=
        fun base listed => inductionHypothesis base (bases base listed)
      choose pedigree built leads using pedigrees
      refine ⟨define d s (d.bases.pmap pedigree fun _ listed => listed), .define ?_ ?_ defined, rfl⟩
      · intro base member
        rcases List.mem_pmap.mp member with ⟨_, listed, rfl⟩
        exact built _ listed
      · simp [List.map_pmap, leads]

/-! ## What is known of the schemas above -/

theorem Built.mem_ancestry_iff_bases (built : t.Built) :
    kind ∈ t.schema.ancestry ↔ ∃ base ∈ t.bases, kind ∈ base.schema.lineage := by
  rw [(Definition.fields_of_assemble built.assemble_eq).2.2.1, built.bases_eq, Definition.ancestry,
    Definition.mem_foldl_addKind]
  simp

theorem Built.mem_ancestry_iff (built : t.Built) :
    kind ∈ t.schema.ancestry ↔ ∃ above, t.Reaches above ∧ above.schema.kind = kind := by
  induction built with
  | @define d s bases r r' built sameBases defined inductionHypothesis =>
      rw [(Built.define built sameBases defined).mem_ancestry_iff_bases]
      constructor
      · rintro ⟨base, listed, known⟩
        rcases List.mem_cons.mp known with rfl | inherited
        · exact ⟨base, reaches_iff.mpr ⟨base, listed, .inl rfl⟩, rfl⟩
        · rcases (inductionHypothesis base listed).mp inherited with ⟨above, reaches, named⟩
          exact ⟨above, reaches_iff.mpr ⟨base, listed, .inr reaches⟩, named⟩
      · rintro ⟨above, reaches, rfl⟩
        rcases reaches_iff.mp reaches with ⟨base, listed, rfl | reaches⟩
        · exact ⟨above, listed, List.mem_cons_self⟩
        · have inherited := (inductionHypothesis base listed).mpr ⟨above, reaches, rfl⟩
          exact ⟨base, listed, List.mem_cons_of_mem _ inherited⟩

theorem Built.isSubkindOf_iff (built : t.Built) :
    t.schema.isSubkindOf kind = true ↔
      t.schema.kind = kind ∨ ∃ above, t.Reaches above ∧ above.schema.kind = kind := by
  simp [Schema.isSubkindOf, built.mem_ancestry_iff]

theorem Built.isExpando_iff (built : t.Built) :
    t.schema.isExpando = true ↔
      t.definition.isExpando = true ∨ ∃ base ∈ t.bases, base.schema.isExpando = true := by
  rw [(Definition.fields_of_assemble built.assemble_eq).2.2.2, built.bases_eq]
  simp

theorem Built.isExpando_of_reaches (built : t.Built) (reaches : t.Reaches above)
    (expando : above.schema.isExpando = true) : t.schema.isExpando = true := by
  induction built with
  | @define d s bases r r' built sameBases defined inductionHypothesis =>
      apply (Built.define built sameBases defined).isExpando_iff.mpr
      rcases reaches_iff.mp reaches with ⟨base, listed, rfl | reaches⟩
      · exact .inr ⟨above, listed, expando⟩
      · exact .inr ⟨base, listed, inductionHypothesis base listed reaches⟩

theorem Built.of_reaches (built : t.Built) (reaches : t.Reaches above) : above.Built := by
  induction built with
  | define built _ _ inductionHypothesis =>
      rcases reaches_iff.mp reaches with ⟨base, listed, rfl | reaches⟩
      · exact built above listed
      · exact inductionHypothesis base listed reaches

/-! ## The schema at the root -/

/-- The properties of the bases, one base after the other, with the first of each attribute. -/
def inherited (t : Pedigree) : List Property :=
  (t.bases.flatMap fun base => base.schema.properties).eraseDupsBy Definition.sameAttribute

theorem Built.properties_eq (built : t.Built) :
    t.schema.properties = t.inherited ++ t.schema.declaredProperties ∧
      List.Forall₂ (Definition.Binds t.schema.kind) t.definition.declared
        t.schema.declaredProperties := by
  rcases Definition.assemble_eq_ok built.assemble_eq with ⟨merged, inherits, declares, -⟩
  rcases Definition.fields_of_assemble built.assemble_eq with ⟨sameKind, names, -⟩
  rcases Definition.exists_of_foldlM_declareProperty declares with ⟨own, appended, binds⟩
  have first : merged = t.inherited := by
    rw [Definition.eq_eraseDupsBy_of_foldlM_inheritProperty inherits, inherited, built.bases_eq,
      List.flatMap_map, List.nil_append]
    simp
  have declared : t.schema.declaredProperties = own := by
    rw [Schema.declaredProperties, names, ← Definition.attributes_of_forall₂_binds binds]
    apply Definition.filterMap_property?_attributes built.defined.distinct
    intro p member
    rw [appended]
    exact List.mem_append_right merged member
  rw [declared, sameKind]
  exact ⟨first ▸ appended, binds⟩

/-- What the schema at the root of a pedigree is to be. -/
structure Faithful (t : Pedigree) : Prop where
  kind_eq : t.schema.kind = t.definition.kind
  /-- No attribute and no storage name occurs twice. -/
  distinct : t.schema.Distinct
  /-- A name leads to the property of that name, and no other name leads anywhere. -/
  property?_iff : ∀ attr p,
    t.schema.property? attr = some p ↔ p ∈ t.schema.properties ∧ p.attributeName = attr
  propertyByStorageName?_iff : ∀ name p,
    t.schema.propertyByStorageName? name = some p ↔
      p ∈ t.schema.properties ∧ p.storageName = name
  /-- Names lead there through indexes as well, which are noted along the way. -/
  indexed : ∃ x : IndexedSchema, t.definition.assembleIndexed = .ofExcept (.ok x) ∧
    x.schema = t.schema ∧ x.Exact
  /-- The inherited properties come first, -/
  properties_eq : t.schema.properties = t.inherited ++ t.schema.declaredProperties
  /-- and the declared ones follow in their order. -/
  declared : List.Forall₂ (Definition.Binds t.schema.kind) t.definition.declared
    t.schema.declaredProperties
  mem_unindexed_iff : ∀ name, name ∈ t.schema.unindexed ↔
    ∃ p ∈ t.schema.properties, p.isIndexed = false ∧ p.storageName = name
  /-- The ancestry has every kind that is reached, once, -/
  nodup_ancestry : t.schema.ancestry.Nodup
  mem_ancestry_iff : ∀ kind, kind ∈ t.schema.ancestry ↔
    ∃ above, t.Reaches above ∧ above.schema.kind = kind
  /-- and so what a schema extends passes on whose kinds it is of, -/
  isSubkindOf : ∀ above, t.Reaches above → ∀ kind,
    above.schema.isSubkindOf kind = true → t.schema.isSubkindOf kind = true
  /-- and whether instances may carry properties of their own. -/
  isExpando_iff : t.schema.isExpando = true ↔
    t.definition.isExpando = true ∨ ∃ above, t.Reaches above ∧ above.schema.isExpando = true

theorem Built.exists_indexed (built : t.Built) :
    ∃ x : IndexedSchema, t.definition.assembleIndexed = .ofExcept (.ok x) ∧
      x.schema = t.schema ∧ x.Exact := by
  refine ⟨t.schema.indexed, ?_, rfl, built.defined.distinct.exact_indexed⟩
  rw [Definition.assembleIndexed_eq, built.assemble_eq]
  rfl

theorem Built.nodup_ancestry (built : t.Built) : t.schema.ancestry.Nodup := by
  rw [(Definition.fields_of_assemble built.assemble_eq).2.2.1]
  exact Definition.nodup_foldl_addKind List.nodup_nil

theorem Built.isSubkindOf_of_reaches (built : t.Built) (reaches : t.Reaches above)
    (subkind : above.schema.isSubkindOf kind = true) : t.schema.isSubkindOf kind = true := by
  apply built.isSubkindOf_iff.mpr
  rcases (built.of_reaches reaches).isSubkindOf_iff.mp subkind with named | ⟨higher, further, named⟩
  · exact .inr ⟨above, reaches, named⟩
  · exact .inr ⟨higher, reaches.trans further, named⟩

/-- A tree of definitions that have all succeeded leads to a schema with all the properties that the
bases and the declarations say, each under names of its own, and of all the kinds that the tree has
above it. -/
theorem faithful_of_built (built : t.Built) : t.Faithful where
  kind_eq := (Definition.fields_of_assemble built.assemble_eq).1
  distinct := built.defined.distinct
  property?_iff _ _ := Schema.find?_eq_some_iff_of_nodup built.defined.distinct.attributes
  propertyByStorageName?_iff _ _ := Schema.find?_eq_some_iff_of_nodup built.defined.distinct.slots
  indexed := built.exists_indexed
  properties_eq := built.properties_eq.1
  declared := built.properties_eq.2
  mem_unindexed_iff _ := built.defined.mem_unindexed_iff
  nodup_ancestry := built.nodup_ancestry
  mem_ancestry_iff _ := built.mem_ancestry_iff
  isSubkindOf _ reaches _ := built.isSubkindOf_of_reaches reaches
  isExpando_iff := by
    rw [built.isExpando_iff]
    constructor
    · rintro (own | ⟨base, listed, expando⟩)
      · exact .inl own
      · exact .inr ⟨base, reaches_iff.mpr ⟨base, listed, .inl rfl⟩, expando⟩
    · rintro (own | ⟨above, reaches, expando⟩)
      · exact .inl own
      · exact built.isExpando_iff.mp (built.isExpando_of_reaches reaches expando)

/-! ## A report that sums up stories and pages -/

open Definition (content contentDefinition extending extended)

/-- Contents extend nothing. -/
def contents : Pedigree :=
  define (contentDefinition (.string false)) (content (.string false)) []

/-- Stories extend contents. -/
def stories : Pedigree :=
  define (extending "Story" [contents.schema]) (extended "Story" contents.schema) [contents]

/-- Pages may carry properties of their own. -/
def pages : Pedigree :=
  define { extending "Page" [contents.schema] with isExpando := true }
    { extended "Page" contents.schema with isExpando := true } [contents]

/-- What a report declares itself, kept in records under another name. -/
def summary : Property where
  kind := .text
  binding := some ⟨"Report", "summary"⟩
  storage := some "abstract"

/-- Both bases have the title of the contents, which the report has once. -/
def summaries : Pedigree :=
  define
    { extending "Report" [stories.schema, pages.schema] with
      declared := [("summary", { kind := .text, storage := some "abstract" })] }
    { kind := "Report"
      properties := [Definition.title (.string false), summary]
      declared := ["summary"]
      unindexed := .ofList ["abstract"]
      ancestry := ["Story", "Content", "Page"]
      isExpando := true
      isAbstract := false }
    [stories, pages]

theorem faithful_summaries :
    summaries.Built ∧ summaries.Faithful ∧
      summaries.schema.property? "summary" = some summary ∧
      (∃ x : IndexedSchema, summaries.definition.assembleIndexed = .ofExcept (.ok x) ∧
        x.attributes["title"]? = some 0 ∧ x.slots["abstract"]? = some 1) ∧
      summaries.inherited = [Definition.title (.string false)] ∧
      summaries.Reaches contents ∧ summaries.schema.isSubkindOf "Content" = true := by
  have builtContents : contents.Built := .define (r := .empty false) nofun rfl rfl
  have builtStories : stories.Built :=
    .define (r := .empty false) (List.forall_mem_singleton.mpr builtContents) rfl rfl
  have builtPages : pages.Built :=
    .define (r := .empty false) (List.forall_mem_singleton.mpr builtContents) rfl rfl
  have built : summaries.Built := by
    refine .define (r := .empty false) ?_ rfl rfl
    simp only [List.forall_mem_cons]
    exact ⟨builtStories, builtPages, nofun⟩
  have faithful := faithful_of_built built
  have reaches : summaries.Reaches contents :=
    reaches_iff.mpr ⟨stories, List.mem_cons_self, .inr
      (reaches_iff.mpr ⟨contents, List.mem_cons_self, .inl rfl⟩)⟩
  refine ⟨built, faithful, ?_, ?_, rfl, reaches, ?_⟩
  · exact (faithful.property?_iff "summary" summary).mpr ⟨List.mem_of_getElem? (i := 1) rfl, rfl⟩
  · obtain ⟨x, passes, same, exact⟩ := faithful.indexed
    refine ⟨x, passes, (exact.attributes_iff "title" 0).mpr ?_,
      (exact.slots_iff "abstract" 1).mpr ?_⟩
    · exact ⟨Definition.title (.string false), by rw [same]; rfl, rfl⟩
    · exact ⟨summary, by rw [same]; rfl, rfl⟩
  · exact faithful.isSubkindOf contents reaches "Content" (by decide)

end Pedigree

end EntityStore
