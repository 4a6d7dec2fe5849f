import EntityStore.Proofs.Schema.Registry
import Mathlib.Data.Set.Basic

/-!
# Properties that several bases share

A schema may inherit one attribute from several bases, as long as the schemas that declared it go
by the same kind; every other conflict is refused.  The declaration of the first base counts.  So
the schema agrees with all of its bases exactly when one kind has declared nothing differently in
two schemas, which is certain where the kinds tell the schemas apart.
-/

namespace EntityStore

namespace Schema

/-- A schema that was put together from schemas of a collection, which were put together from
schemas of the collection as well. -/
inductive DefinedAmong (schemas : Set Schema) : Schema → Prop where
  | assemble {d : Definition} {s : Schema} (bases : ∀ base ∈ d.bases, DefinedAmong schemas base)
      (member : s ∈ schemas) (assembled : d.assemble = .ok s) : DefinedAmong schemas s

variable {s : Schema} {schemas : Set Schema}

theorem DefinedAmong.defined (among : s.DefinedAmong schemas) : s.Defined := by
  induction among with
  | assemble _ _ assembled inductionHypothesis => exact .assemble inductionHypothesis assembled

theorem DefinedAmong.mono {more : Set Schema} (among : s.DefinedAmong schemas)
    (subset : schemas ⊆ more) : s.DefinedAmong more := by
  induction among with
  | assemble _ member assembled inductionHypothesis =>
      exact .assemble inductionHypothesis (subset member) assembled

end Schema

namespace Definition

variable {d : Definition} {s : Schema} {kind : String} {p q : Property}
  {properties properties' : List Property}

/-- The property of an attribute among some properties: the first one. -/
def named? (attr : String) (properties : List Property) : Option Property :=
  properties.find? fun p => p.attributeName = attr

theorem named?_append (attr : String) (properties properties' : List Property) :
    named? attr (properties ++ properties') =
      (named? attr properties).or (named? attr properties') :=
  List.find?_append

theorem named?_singleton (attr : String) (p : Property) :
    named? attr [p] = if p.attributeName = attr then some p else none := by
  by_cases same : p.attributeName = attr <;> simp [named?, same]

theorem mem_of_named? {attr : String} (found : named? attr properties = some p) :
    p ∈ properties ∧ p.attributeName = attr :=
  ⟨List.mem_of_find?_eq_some found, by simpa using List.find?_some found⟩

theorem exists_named? (member : p ∈ properties) :
    ∃ q, named? p.attributeName properties = some q := by
  apply Option.isSome_iff_exists.mp
  simp only [named?, List.find?_isSome, decide_eq_true_eq]
  exact ⟨p, member, rfl⟩

/-! ## Merging the bases -/

/-- An attribute that is there already stays as it is, and has to come from the same kind. -/
theorem inheritProperty_spec (inherited : inheritProperty properties p = .ok properties') :
    (∀ attr, named? attr properties' = named? attr (properties ++ [p])) ∧
      ∀ q, named? p.attributeName (properties ++ [p]) = some q →
        q.ownerKind? = p.ownerKind? := by
  rcases cases_of_inheritProperty inherited with ⟨first, found, sameOwner, rfl⟩ | ⟨absent, rfl⟩
  · rw [← named?] at found
    constructor
    · intro attr
      rw [named?_append, named?_singleton]
      by_cases same : p.attributeName = attr
      · rw [← same, found, Option.some_or]
      · rw [if_neg same, Option.or_none]
    · intro q first'
      rw [named?_append, found, Option.some_or] at first'
      cases first'
      exact sameOwner
  · rw [← named?] at absent
    constructor
    · exact fun _ => rfl
    · intro q first
      rw [named?_append, absent, Option.none_or, named?_singleton, if_pos rfl] at first
      cases first
      rfl

/-- Merged properties are found like the first ones of their attributes in the order of the bases,
and every property has the owner of the first one. -/
theorem foldlM_inheritProperty_spec {more merged : List Property}
    (inherited : more.foldlM inheritProperty properties = .ok merged) :
    (∀ attr, named? attr merged = named? attr (properties ++ more)) ∧
      ∀ p ∈ more, ∀ q, named? p.attributeName (properties ++ more) = some q →
        q.ownerKind? = p.ownerKind? := by
  induction more generalizing properties with
  | nil =>
      cases Failure.pure_eq_ok_iff.mp inherited
      simp
  | cons p more inductionHypothesis =>
      rw [List.foldlM_cons, Failure.bind_eq_ok_iff] at inherited
      rcases inherited with ⟨next, first, inherited⟩
      rcases inheritProperty_spec first with ⟨places, owner⟩
      rcases inductionHypothesis inherited with ⟨places', owners⟩
      have merges : ∀ attr, named? attr (next ++ more) = named? attr (properties ++ p :: more) := by
        intro attr
        rw [named?_append, places, ← named?_append, List.append_assoc, List.singleton_append]
      constructor
      · intro attr
        rw [places', merges]
      · intro p' member q found
        rcases List.mem_cons.mp member with rfl | member
        · rcases exists_named? (List.mem_append_right properties (List.mem_singleton.mpr rfl)) with
            ⟨q', found'⟩
          rw [← List.singleton_append, ← List.append_assoc, named?_append, found',
            Option.some_or] at found
          cases found
          exact owner _ found'
        · exact owners p' member q (by rw [merges, found])

/-- The properties of all bases, one base after the other. -/
def inherited (d : Definition) : List Property :=
  d.bases.flatMap (·.properties)

theorem mem_inherited_iff : p ∈ d.inherited ↔ ∃ base ∈ d.bases, p ∈ base.properties :=
  List.mem_flatMap

theorem mem_inherited_of_property? {base : Schema} {attr : String} (listed : base ∈ d.bases)
    (found : base.property? attr = some p) : p ∈ d.inherited ∧ p.attributeName = attr := by
  rcases Schema.property?_eq_some found with ⟨member, named⟩
  exact ⟨mem_inherited_iff.mpr ⟨base, listed, member⟩, named⟩

theorem findSome?_property? (attr : String) :
    d.bases.findSome? (·.property? attr) = named? attr d.inherited :=
  List.find?_flatMap.symm

theorem mem_of_foldlM_inheritProperty {more merged : List Property}
    (inherited : more.foldlM inheritProperty properties = .ok merged) (member : p ∈ merged) :
    p ∈ properties ++ more := by
  induction more generalizing properties with
  | nil =>
      cases Failure.pure_eq_ok_iff.mp inherited
      rwa [List.append_nil]
  | cons q more inductionHypothesis =>
      rw [List.foldlM_cons, Failure.bind_eq_ok_iff] at inherited
      rcases inherited with ⟨next, first, inherited⟩
      have among := inductionHypothesis inherited
      rcases cases_of_inheritProperty first with ⟨_, -, -, rfl⟩ | ⟨-, rfl⟩
      · rcases List.mem_append.mp among with before | later
        · exact List.mem_append_left _ before
        · exact List.mem_append_right _ (List.mem_cons_of_mem q later)
      · rwa [List.append_assoc] at among

/-- Whether properties come after others, under declared names and for the kind that declares
them. -/
def Extends (kind : String) (names : List String) (properties now : List Property) : Prop :=
  ∃ added, now = properties ++ added ∧
    ∀ p ∈ added, p.attributeName ∈ names ∧ p.ownerKind? = some kind

theorem extends_declareProperty {names : List String} {attr : String} {now next : List Property}
    (member : attr ∈ names) (before : Extends kind names properties now)
    (declares : declareProperty kind now (attr, p) = .ok next) :
    Extends kind names properties next := by
  rcases before with ⟨added, rfl, own⟩
  rcases exists_of_declareProperty declares with ⟨-, -, bound, answered, rfl⟩
  refine ⟨added ++ [bound], List.append_assoc properties added [bound], ?_⟩
  intro q among
  rcases List.mem_append.mp among with earlier | last
  · exact own q earlier
  · rw [List.mem_singleton.mp last]
    constructor
    · rwa [attributeName_bind answered]
    · rw [Property.ownerKind?, binding_bind answered]
      rfl

theorem extends_of_foldlM_declareProperty {declared : List (String × Property)}
    (declares : declared.foldlM (declareProperty kind) properties = .ok properties') :
    Extends kind (declared.map (·.1)) properties properties' := by
  have start : Extends kind (declared.map (·.1)) properties properties :=
    ⟨[], (List.append_nil properties).symm, fun p member => absurd member List.not_mem_nil⟩
  apply Failure.invariant_of_foldlM _ start declares
  rintro ⟨attr, p⟩ member now next before answered
  exact extends_declareProperty (List.mem_map_of_mem (f := Prod.fst) member) before answered

/-- The inherited properties that go by one attribute were declared by schemas of one kind, and the
first of them is the schema's. -/
theorem owners_of_assemble (assembled : d.assemble = .ok s) :
    (∀ p ∈ d.inherited, s.property? p.attributeName = named? p.attributeName d.inherited) ∧
      ∀ p ∈ d.inherited, ∀ q ∈ d.inherited, p.attributeName = q.attributeName →
        p.ownerKind? = q.ownerKind? := by
  rcases assemble_eq_ok assembled with ⟨merged, inherits, declares, -⟩
  rcases foldlM_inheritProperty_spec inherits with ⟨places, owners⟩
  rcases extends_of_foldlM_declareProperty declares with ⟨added, appended, -⟩
  constructor
  · intro p member
    rcases exists_named? member with ⟨first, found⟩
    change named? p.attributeName s.properties = _
    rw [appended, named?_append, places]
    change (named? p.attributeName d.inherited).or _ = _
    rw [found, Option.some_or]
  · intro p member q member' same
    rcases exists_named? member with ⟨first, found⟩
    have ownerOfFirst := owners p member first found
    rw [same] at found
    exact ownerOfFirst.symm.trans (owners q member' first found)

/-! ## Where a property was declared -/

theorem fields_of_assemble (assembled : d.assemble = .ok s) :
    s.kind = d.kind ∧ s.declared = d.declared.map (·.1) ∧ s.ancestry = ancestry d.bases ∧
      s.isExpando = (d.isExpando || d.bases.any (·.isExpando)) := by
  simp only [assemble, Failure.bind_eq_ok_iff, Failure.guard_eq_ok_iff,
    Failure.pure_eq_ok_iff] at assembled
  rcases assembled with ⟨-, _, -, _, -, ⟨⟩, -, rfl⟩
  exact ⟨rfl, rfl, rfl, rfl⟩

end Definition

/-- Whether a property was declared by a schema of a collection, and for its kind. -/
def Property.DeclaredAmong (schemas : Set Schema) (p : Property) : Prop :=
  ∃ origin ∈ schemas, p ∈ origin.declaredProperties ∧ p.ownerKind? = some origin.kind

namespace Schema

variable {s : Schema} {schemas : Set Schema}

/-- Every property of a schema was declared by the schema or by one that it extends. -/
theorem DefinedAmong.declaredAmong (among : s.DefinedAmong schemas) :
    ∀ p ∈ s.properties, p.DeclaredAmong schemas := by
  induction among with
  | @assemble d s bases inside assembled inductionHypothesis =>
      intro p member
      rcases Definition.assemble_eq_ok assembled with ⟨merged, inherits, declares, -⟩
      rcases Definition.extends_of_foldlM_declareProperty declares with ⟨added, appended, own⟩
      rcases Definition.fields_of_assemble assembled with ⟨sameKind, declared, -⟩
      have place := (Definition.distinct_of_assemble assembled).property?_eq member
      rw [appended] at member
      rcases List.mem_append.mp member with ofBases | ofOwn
      · rcases List.mem_flatMap.mp (Definition.mem_of_foldlM_inheritProperty inherits ofBases) with
          ⟨base, listed, ofBase⟩
        exact inductionHypothesis base listed p ofBase
      · rcases own p ofOwn with ⟨named, owner⟩
        refine ⟨s, inside, List.mem_filterMap.mpr ⟨p.attributeName, ?_, place⟩, ?_⟩
        · rwa [declared]
        · rwa [sameKind]

end Schema

/-! ## Agreement with the bases -/

namespace Definition

variable {d : Definition} {s : Schema} {schemas : Set Schema} {r r' : Registry}

/-- Whether a schema has under every attribute of each base what the base has there, so that bases
with a common attribute have the same property. -/
def AgreesWithBases (d : Definition) (s : Schema) : Prop :=
  ∀ base ∈ d.bases, ∀ attr p, base.property? attr = some p → s.property? attr = some p

/-- Whether schemas of one kind have declared no inherited attribute differently. -/
def DeclaredOnce (d : Definition) (schemas : Set Schema) : Prop :=
  ∀ origin ∈ schemas, ∀ origin' ∈ schemas, origin.kind = origin'.kind →
    ∀ p ∈ origin.declaredProperties, ∀ q ∈ origin'.declaredProperties,
      p ∈ d.inherited → q ∈ d.inherited → p.attributeName = q.attributeName → p = q

theorem declaredAmong_of_inherited (among : ∀ base ∈ d.bases, base.DefinedAmong schemas)
    {p : Property} (member : p ∈ d.inherited) : p.DeclaredAmong schemas := by
  rcases mem_inherited_iff.mp member with ⟨base, listed, member⟩
  exact (among base listed).declaredAmong p member

theorem AgreesWithBases.property?_eq (agrees : d.AgreesWithBases s)
    (among : ∀ base ∈ d.bases, base.DefinedAmong schemas) {p : Property}
    (member : p ∈ d.inherited) : s.property? p.attributeName = some p := by
  rcases mem_inherited_iff.mp member with ⟨base, listed, member⟩
  apply agrees base listed
  exact (among base listed).defined.distinct.property?_eq member

/-- Two properties that are inherited under one attribute come from schemas of one kind, so what
these have declared is all that can differ. -/
theorem agreesWithBases_iff (among : ∀ base ∈ d.bases, base.DefinedAmong schemas)
    (assembled : d.assemble = .ok s) : d.AgreesWithBases s ↔ d.DeclaredOnce schemas := by
  rcases owners_of_assemble assembled with ⟨places, owners⟩
  constructor
  · intro agrees origin _ origin' _ _ p _ q _ member member' same
    have first := agrees.property?_eq among member
    rw [same, agrees.property?_eq among member'] at first
    exact (Option.some.inj first).symm
  · intro once base listed attr p found
    rcases mem_inherited_of_property? listed found with ⟨member, rfl⟩
    rcases exists_named? member with ⟨first, leads⟩
    rcases mem_of_named? leads with ⟨member', same⟩
    rcases declaredAmong_of_inherited among member with ⟨origin, inside, declares, owner⟩
    rcases declaredAmong_of_inherited among member' with ⟨origin', inside', declares', owner'⟩
    have sameKind : some origin.kind = some origin'.kind := by
      rw [← owner, ← owner', owners p member first member' same.symm]
    rw [places p member, leads, once origin inside origin' inside' (Option.some.inj sameKind) p
      declares first declares' member member' same.symm]

/-- A definition with an attribute that bases have from schemas of different kinds is refused.
Otherwise the first base with the attribute decides, and the schema agrees with all of its bases
exactly when schemas of one kind have declared no inherited attribute differently. -/
theorem agreesWithBases_iff_of_define (among : ∀ base ∈ d.bases, base.DefinedAmong schemas)
    (defined : r.define d = .ok (s, r')) :
    (∀ base ∈ d.bases, ∀ base' ∈ d.bases, ∀ attr p q, base.property? attr = some p →
      base'.property? attr = some q → p.ownerKind? = q.ownerKind?) ∧
    (∀ attr p, d.bases.findSome? (·.property? attr) = some p → s.property? attr = some p) ∧
    (d.AgreesWithBases s ↔ d.DeclaredOnce schemas) := by
  have assembled := (Registry.define_eq_ok_iff.mp defined).1
  rcases owners_of_assemble assembled with ⟨places, owners⟩
  refine ⟨?_, ?_, agreesWithBases_iff among assembled⟩
  · intro base listed base' listed' attr p q found found'
    rcases mem_inherited_of_property? listed found with ⟨member, named⟩
    rcases mem_inherited_of_property? listed' found' with ⟨member', named'⟩
    exact owners p member q member' (named.trans named'.symm)
  · intro attr p found
    rw [findSome?_property?] at found
    rcases mem_of_named? found with ⟨member, rfl⟩
    rw [places p member, found]

/-! ## Contents and what extends them -/

/-- A title that contents declare. -/
def title (titleKind : PropertyKind) : Property where
  kind := titleKind
  binding := some ⟨"Content", "title"⟩
  storage := some "title"

/-- Contents with a title, as a kind that only lends it. -/
def content (titleKind : PropertyKind) : Schema where
  kind := "Content"
  properties := [title titleKind]
  declared := ["title"]
  unindexed := ∅
  ancestry := []
  isExpando := false
  isAbstract := true

/-- Contents with a title, which only other kinds can extend. -/
def contentDefinition (titleKind : PropertyKind) : Definition where
  kind := "Content"
  declared := [("title", { kind := titleKind })]
  isAbstract := true

/-- A kind that declares nothing itself. -/
def extending (kind : String) (bases : List Schema) : Definition where
  kind := kind
  bases := bases

/-- What such a definition with one base puts together. -/
def extended (kind : String) (base : Schema) : Schema :=
  { base with kind, declared := [], ancestry := base.lineage, isAbstract := false }

/-- A report extends stories and pages, which both extend contents with a text for a title. -/
def report : Definition :=
  extending "Report" [extended "Story" (content (.string false)),
    extended "Page" (content (.string false))]

/-- The schemas above the report. -/
def publications : Set Schema :=
  {content (.string false), extended "Story" (content (.string false)),
    extended "Page" (content (.string false))}

/-- A diamond: both bases have the title of the contents, and so has the kind that joins them. -/
theorem agreesWithBases_report :
    (∀ base ∈ report.bases, base.DefinedAmong publications) ∧
      ∃ s r', (Registry.empty false).define report = .ok (s, r') ∧ report.AgreesWithBases s := by
  have contents : ∀ base ∈ [content (.string false)], base.DefinedAmong publications :=
    List.forall_mem_singleton.mpr
      (.assemble (d := contentDefinition (.string false)) nofun (.inl rfl) rfl)
  have among : ∀ base ∈ report.bases, base.DefinedAmong publications := by
    simp only [report, extending, List.forall_mem_cons]
    exact
      ⟨.assemble (d := extending "Story" [content (.string false)]) contents (.inr (.inl rfl)) rfl,
        .assemble (d := extending "Page" [content (.string false)]) contents (.inr (.inr rfl)) rfl,
        nofun⟩
  obtain ⟨s, r', defined⟩ : ∃ s r', (Registry.empty false).define report = .ok (s, r') :=
    ⟨_, _, rfl⟩
  refine ⟨among, s, r', defined, (agreesWithBases_iff_of_define among defined).2.2.mpr ?_⟩
  have declared : ∀ origin ∈ publications, ∀ p ∈ origin.declaredProperties,
      p = title (.string false) := by
    rintro origin (rfl | rfl | rfl) p declares
    · exact List.mem_singleton.mp declares
    · exact absurd declares List.not_mem_nil
    · exact absurd declares List.not_mem_nil
  intro origin inside origin' inside' _ p declares q declares' _ _ _
  rw [declared origin inside p declares, declared origin' inside' q declares']

/-- A story extends two kinds of contents that go by one name. -/
def mixedStory : Definition :=
  extending "Story" [content (.string false), content .integer]

/-- The title of the story is a text, as in the first of its bases, although the second one has a
number there. -/
theorem not_agreesWithBases_mixedStory :
    (∀ base ∈ mixedStory.bases, base.Defined) ∧
      ∃ s r', (Registry.empty false).define mixedStory = .ok (s, r') ∧
        (content (.string false)).property? "title" = some (title (.string false)) ∧
        (content .integer).property? "title" = some (title .integer) ∧
        s.property? "title" = some (title (.string false)) ∧
        ¬ mixedStory.AgreesWithBases s := by
  have bases : ∀ base ∈ mixedStory.bases, base.Defined := by
    simp only [mixedStory, extending, List.forall_mem_cons]
    exact ⟨.assemble (d := contentDefinition (.string false)) nofun rfl,
      .assemble (d := contentDefinition .integer) nofun rfl, nofun⟩
  refine ⟨bases, _, _, rfl, rfl, rfl, rfl, ?_⟩
  intro agrees
  have number := agrees (content .integer) (by simp [mixedStory, extending]) "title"
    (title .integer) rfl
  cases number

end Definition

end EntityStore
