import EntityStore.Proofs.Schema.Inheritance
import EntityStore.Proofs.Schema.Registration

/-!
# Collections of inherited references

A registration creates the collections of the references that its schema declares, and a kind that
inherits a reference shares the collection of the schema that declared it.  An abstract schema is
never registered, and what extends it does not declare its references again.  So a reference has a
collection exactly when a schema declares it that is not abstract.
-/

namespace EntityStore

/-- Whether a schema declares a reference under the owner, attribute and place of a property, with
a collection of some name on a target kind. -/
def Schema.DeclaresLike (s : Schema) (p : Property) (target name : String) : Prop :=
  p.ownerKind? = some s.kind ∧ ∃ q ∈ s.declaredProperties, q.RefersTo target name ∧
    q.attributeName = p.attributeName ∧ q.storageName = p.storageName

namespace Registry

variable {r r' : Registry} {schemas : List Schema} {s : Schema} {p : Property}
  {kind target name : String}

/-- The schemas that definitions have built, each from bases among the earlier ones, and the
registry that they have filled.  No kind is redefined. -/
inductive Builds : List Schema → Registry → Prop where
  | none : Builds [] (.empty false)
  | define {schemas : List Schema} {r r' : Registry} {d : Definition} {s : Schema}
      (builds : Builds schemas r) (bases : ∀ base ∈ d.bases, base ∈ schemas)
      (defined : r.define d = .ok (s, r')) : Builds (schemas ++ [s]) r'

/-- Whether a target kind has the collection of a property, with the kind that declared the
property for its source. -/
def Collects (r : Registry) (p : Property) (target name : String) : Prop :=
  ∃ kind, p.ownerKind? = some kind ∧
    r.collection? target name = some ⟨kind, p.attributeName, p.storageName⟩

/-! ## What is registered -/

/-- The registry knows the schemas that are not abstract. -/
theorem Builds.knows (builds : Builds schemas r) :
    r.allowRedefinition = false ∧ r.Knows (schemas.filter (!·.isAbstract)) := by
  induction builds with
  | none => exact ⟨rfl, knows_empty false⟩
  | @define schemas r r' d s _ _ defined inductionHypothesis =>
      obtain ⟨fixed, knows⟩ := inductionHypothesis
      obtain ⟨-, outcome⟩ := define_eq_ok_iff.mp defined
      rw [List.filter_append]
      cases lent : s.isAbstract with
      | true =>
          rw [lent, if_pos rfl] at outcome
          subst outcome
          simpa [lent] using ⟨fixed, knows⟩
      | false =>
          rw [lent, if_neg Bool.false_ne_true] at outcome
          obtain ⟨-, sameRegistry⟩ := register_eq_ok_iff.mp outcome
          refine ⟨?_, by simpa [lent] using knows.register outcome⟩
          rw [← sameRegistry]
          exact fixed

/-- Every schema was put together from schemas of the sequence. -/
theorem Builds.definedAmong (builds : Builds schemas r) :
    ∀ s ∈ schemas, s.DefinedAmong {s | s ∈ schemas} := by
  induction builds with
  | none => exact nofun
  | @define schemas r r' d s _ bases defined inductionHypothesis =>
      have earlier : ∀ base ∈ schemas, base.DefinedAmong {other | other ∈ schemas ++ [s]} :=
        fun base member => (inductionHypothesis base member).mono
          fun _ among => List.mem_append_left [s] among
      rw [List.forall_mem_append, List.forall_mem_singleton]
      refine ⟨earlier, .assemble (fun base listed => earlier base (bases base listed)) ?_
        (define_eq_ok_iff.mp defined).1⟩
      exact List.mem_append_right schemas List.mem_cons_self

theorem Builds.of_kinds (builds : Builds schemas r) (registered : r.kinds[kind]? = some s) :
    s ∈ schemas ∧ s.isAbstract = false := by
  have known := (builds.knows.2.of_kinds registered).1
  simpa using List.mem_filter.mp known

/-- A property has a collection when a schema that is not abstract declares such a reference. -/
theorem Builds.collects_iff (builds : Builds schemas r) :
    r.Collects p target name ↔
      ∃ origin ∈ schemas, origin.isAbstract = false ∧ origin.DeclaresLike p target name := by
  simp only [Collects, builds.knows.2.collections, List.mem_filter, Schema.mem_collections_iff,
    Schema.DeclaresLike, ReverseReference.mk.injEq, Bool.not_eq_true']
  constructor
  · rintro ⟨_, owner, origin, ⟨member, mapped⟩, q, declared, refers, rfl, attr, storage⟩
    exact ⟨origin, member, mapped, owner, q, declared, refers, attr.symm, storage.symm⟩
  · rintro ⟨origin, member, mapped, owner, q, declared, refers, attr, storage⟩
    exact ⟨_, owner, origin, ⟨member, mapped⟩, q, declared, refers, rfl, attr.symm, storage.symm⟩

/-- Every reference of a registered schema that has a target kind was declared by a schema of the
sequence and names its collection.  It has that collection if the declaring schema is not abstract,
be it inherited or not; in general it has it exactly when some schema that is not abstract declares
a reference like it. -/
theorem collects_iff_of_builds (builds : Builds schemas r) (registered : r.kinds[kind]? = some s)
    (member : p ∈ s.properties) {reference : Reference} (refers : p.reference? = some reference)
    (targeted : reference.targetKind? = some target) :
    ∃ name, reference.collection = some name ∧
      (∃ origin ∈ schemas, p ∈ origin.declaredProperties ∧ p.ownerKind? = some origin.kind ∧
        (origin.isAbstract = false → r.Collects p target name)) ∧
      (r.Collects p target name ↔
        ∃ origin ∈ schemas, origin.isAbstract = false ∧ origin.DeclaresLike p target name) := by
  have among := builds.definedAmong s (builds.of_kinds registered).1
  obtain ⟨name, named⟩ := among.defined.exists_collection member refers
  have refersTo : p.RefersTo target name := ⟨reference, refers, targeted, named⟩
  obtain ⟨origin, listed, declared, owner⟩ := among.declaredAmong p member
  refine ⟨name, named, ⟨origin, listed, declared, owner, fun mapped => ?_⟩, builds.collects_iff⟩
  exact builds.collects_iff.mpr ⟨origin, listed, mapped, owner, p, declared, refersTo, rfl, rfl⟩

/-! ## Remarks about stories -/

/-- A reference to a story that remarks declare. -/
def aboutStory : Property where
  kind := .reference ⟨.kind "Story", some "remarks"⟩
  binding := some ⟨"Remark", "story"⟩
  storage := some "story"

/-- A remark with its reference; remarks may be abstract. -/
def remarkDefinition (isAbstract : Bool) : Definition where
  kind := "Remark"
  declared := [("story", { kind := .reference ⟨.kind "Story", some "remarks"⟩ })]
  isAbstract

/-- What the definition puts together. -/
def remark (isAbstract : Bool) : Schema where
  kind := "Remark"
  properties := [aboutStory]
  declared := ["story"]
  unindexed := ∅
  ancestry := []
  isExpando := false
  isAbstract

/-- A reply is a remark and declares nothing itself. -/
def reply (isAbstract : Bool) : Schema :=
  Definition.extended "Reply" (remark isAbstract)

/-- Stories, remarks and replies can be built, whether remarks are abstract or not. -/
theorem builds_replies (isAbstract : Bool) :
    ∃ r, Builds [story "title", remark isAbstract, reply isAbstract] r ∧
      r.kinds["Reply"]? = some (reply isAbstract) := by
  have stories : Builds [story "title"] ((empty false).withSchema (story "title")) :=
    .define .none nofun (d := storyDefinition "title") rfl
  have extends_remark : ∀ base ∈ [remark isAbstract], base ∈ [story "title", remark isAbstract] :=
    fun _ listed => List.mem_cons_of_mem _ listed
  cases isAbstract with
  | true =>
      have remarks := Builds.define stories nofun (d := remarkDefinition true) rfl
      refine ⟨_, .define remarks extends_remark (d := .extending "Reply" [remark true]) rfl, ?_⟩
      exact (kinds_withSchema _ (reply true) "Reply").trans (if_pos rfl)
  | false =>
      have remarks := Builds.define stories nofun (d := remarkDefinition false) rfl
      refine ⟨_, .define remarks extends_remark (d := .extending "Reply" [remark false]) rfl, ?_⟩
      exact (kinds_withSchema _ (reply false) "Reply").trans (if_pos rfl)

/-- Replies share the collection of the remarks that they extend. -/
theorem collects_replies :
    ∃ r, Builds [story "title", remark false, reply false] r ∧
      r.kinds["Reply"]? = some (reply false) ∧ aboutStory ∈ (reply false).properties ∧
      aboutStory.reference? = some ⟨.kind "Story", some "remarks"⟩ ∧
      Reference.targetKind? ⟨.kind "Story", some "remarks"⟩ = some "Story" ∧
      r.Collects aboutStory "Story" "remarks" := by
  obtain ⟨r, builds, registered⟩ := builds_replies false
  have member : aboutStory ∈ (reply false).properties := List.mem_cons_self
  refine ⟨r, builds, registered, member, rfl, rfl, ?_⟩
  obtain ⟨name, named, -, collects_iff⟩ :=
    collects_iff_of_builds builds registered member rfl rfl
  cases named
  refine collects_iff.mpr ⟨remark false, by simp, rfl, rfl, aboutStory, List.mem_cons_self, ?_⟩
  exact ⟨⟨_, rfl, rfl, rfl⟩, rfl, rfl⟩

/-- If remarks are abstract, replies are registered with a reference to stories, but stories have
no collection of any name. -/
theorem replies_uncollected :
    ∃ r, Builds [story "title", remark true, reply true] r ∧
      r.kinds["Reply"]? = some (reply true) ∧ aboutStory ∈ (reply true).properties ∧
      aboutStory.RefersTo "Story" "remarks" ∧
      (∀ name, r.collection? "Story" name = none) ∧ ¬ r.Collects aboutStory "Story" "remarks" := by
  obtain ⟨r, builds, registered⟩ := builds_replies true
  have nothing : ∀ name, r.collection? "Story" name = none := by
    intro name
    rw [Option.eq_none_iff_forall_ne_some]
    intro reverse listed
    obtain ⟨s, known, created⟩ := builds.knows.2.collections.mp listed
    have known : s ∈ [story "title", reply true] := known
    simp only [List.mem_cons, List.not_mem_nil, or_false] at known
    rcases known with rfl | rfl
    · exact List.not_mem_nil created
    · exact List.not_mem_nil created
  refine ⟨r, builds, registered, List.mem_cons_self, ⟨_, rfl, rfl, rfl⟩, nothing, ?_⟩
  rintro ⟨kind, -, listed⟩
  rw [nothing] at listed
  contradiction

end Registry

end EntityStore
