import EntityStore.Proofs.Schema.Registry

/-!
# Registries in step with their schemas

The collections on a kind are in step with the schemas when each of them comes from a reference
that the registered schema of its source kind declares, and no registered kind has a property of
the same name.  Registration checks this from both sides, so it holds as long as kinds are not
redefined.  A redefinition takes nothing back: it keeps the collections in step exactly when the
new schema declares them all again.
-/

namespace EntityStore

namespace Registry

variable {r r' : Registry} {s : Schema} {schemas : List Schema}

/-- Whether the registered schema of a kind declares a property as a reference to a target kind
with a collection of some name there. -/
def Declares (r : Registry) (kind : String) (p : Property) (target name : String) : Prop :=
  ∃ schema, r.kinds[kind]? = some schema ∧ p ∈ schema.declaredProperties ∧ p.RefersTo target name

/-- Whether collections and schemas agree. -/
structure InStep (r : Registry) : Prop where
  /-- Every collection comes from a reference that its source kind declares. -/
  sourced : ∀ target name reverse, r.collection? target name = some reverse →
    ∃ p, r.Declares reverse.sourceKind p target name ∧ p.attributeName = reverse.attr ∧
      p.storageName = reverse.storage
  /-- No registered kind has a property with the name of a collection on it. -/
  apart : ∀ target schema name reverse, r.kinds[target]? = some schema →
    r.collection? target name = some reverse → schema.property? name = none

/-- Whether the collections of a schema are still those of a schema of its kind. -/
def Redeclares (r : Registry) (s : Schema) : Prop :=
  ∀ c ∈ s.collections, ∃ current, r.kinds[s.kind]? = some current ∧ c ∈ current.collections

/-- A registry is in step exactly when nothing that it knows of has been given up. -/
theorem Knows.inStep_iff (knows : r.Knows schemas) :
    r.InStep ↔ ∀ s ∈ schemas, r.Redeclares s := by
  constructor
  · intro inStep s member c created
    have listed : r.collection? c.target c.name = some c.reverse :=
      knows.collections.mpr ⟨s, member, created⟩
    obtain ⟨p, ⟨current, registered, declared, refers⟩, attr, storage⟩ :=
      inStep.sourced _ _ _ listed
    obtain ⟨_, _, _, reverse⟩ := Schema.mem_collections_iff.mp created
    have sameKind : c.reverse.sourceKind = s.kind := by rw [reverse]
    rw [sameKind] at registered
    refine ⟨current, registered, Schema.mem_collections_iff.mpr ⟨p, declared, refers, ?_⟩⟩
    rw [(knows.of_kinds registered).2, attr, storage, ← sameKind]
  · intro redeclared
    have current : ∀ {target name reverse}, r.collection? target name = some reverse →
        ∃ source, r.kinds[reverse.sourceKind]? = some source ∧
          ⟨target, name, reverse⟩ ∈ source.collections := by
      intro target name reverse listed
      obtain ⟨s, member, created⟩ := knows.collections.mp listed
      obtain ⟨source, registered, again⟩ := redeclared s member _ created
      obtain ⟨_, _, _, same⟩ := Schema.mem_collections_iff.mp created
      refine ⟨source, ?_, again⟩
      rw [show reverse.sourceKind = s.kind from congrArg ReverseReference.sourceKind same,
        registered]
    constructor
    · intro target name reverse listed
      obtain ⟨source, registered, created⟩ := current listed
      obtain ⟨p, declared, refers, same⟩ := Schema.mem_collections_iff.mp created
      exact ⟨p, ⟨source, registered, declared, refers⟩,
        (congrArg ReverseReference.attr same).symm, (congrArg ReverseReference.storage same).symm⟩
    · intro target schema name reverse registered listed
      by_contra named
      have own : reverse.sourceKind = target :=
        knows.own registered listed (Option.isSome_iff_ne_none.mpr named)
      obtain ⟨source, sourceRegistered, created⟩ := current listed
      rw [own, registered] at sourceRegistered
      cases sourceRegistered
      obtain ⟨member, kind⟩ := knows.of_kinds registered
      exact named (knows.clear schema member _ created kind.symm)

/-! ## Registration as it goes -/

/-- A registration step by step: the checks read the registry, then each collection is written,
and the kind at the end. -/
def registration (s : Schema) : Action Registry Unit := do
  let r ← Action.read id
  r.checkKind s.kind
  r.checkProperties s
  let pending ← (s.collections.foldlM (r.addPending s) [] : Except Failure (List NewCollection))
  pending.forM fun c => Action.update (·.withCollection c)
  Action.update fun r => { r with kinds := r.kinds.insert s.kind s }

theorem runOn_forM_update (cs : List NewCollection) (r : Registry) :
    (cs.forM fun c => Action.update (·.withCollection c)).runOn r =
      (.ok (), cs.foldl withCollection r) := by
  induction cs generalizing r with
  | nil => rfl
  | cons c cs ih =>
      change (Action.update (·.withCollection c) >>= fun _ =>
        cs.forM fun c => Action.update (·.withCollection c)).runOn r = _
      rw [Action.runOn_bind, Action.runOn_update]
      exact ih (r.withCollection c)

/-- A registration either does all that it is asked for or leaves the registry as it was. -/
theorem runOn_registration (s : Schema) (r : Registry) :
    (registration s).runOn r =
      match r.register s with
      | .ok r' => (.ok (), r')
      | .error cause => (.error (.failure cause), r) := by
  have created : s.declaredProperties.filterMap (collectionOf? s.kind) = s.collections := rfl
  simp only [registration, Action.runOn_bind, Action.runOn_read, Action.runOn_lift, id_eq,
    register, created]
  cases r.checkKind s.kind with
  | error cause => rfl
  | ok _ =>
      cases r.checkProperties s with
      | error cause => rfl
      | ok _ =>
          cases s.collections.foldlM (r.addPending s) [] with
          | error cause => rfl
          | ok pending =>
              simp only [Except.mapError, runOn_forM_update, Action.runOn_update,
                foldl_withCollection]
              rfl

/-- The registry after a call, whether the call succeeded or not. -/
def call (r : Registry) (s : Schema) : Registry :=
  ((registration s).runOn r).2

theorem call_eq (r : Registry) (s : Schema) :
    r.call s = match r.register s with
      | .ok r' => r'
      | .error _ => r := by
  rw [call, runOn_registration]
  cases r.register s <;> rfl

/-- After any calls a registry knows the schemas that it has accepted. -/
theorem Knows.calls {known : List Schema} (knows : r.Knows known) (schemas : List Schema) :
    ∃ accepted, (schemas.foldl call r).Knows (known ++ accepted) ∧
      (∀ s ∈ accepted, s ∈ schemas) ∧
      (schemas.foldl call r).allowRedefinition = r.allowRedefinition := by
  induction schemas generalizing r known with
  | nil => exact ⟨[], by rwa [List.append_nil], nofun, rfl⟩
  | cons s schemas ih =>
      rw [List.foldl_cons, call_eq]
      cases registered : r.register s with
      | error cause =>
          obtain ⟨accepted, knows', among, rule⟩ := ih knows
          exact ⟨accepted, knows', fun s' member => List.mem_cons_of_mem s (among s' member), rule⟩
      | ok r' =>
          obtain ⟨accepted, knows', among, rule⟩ := ih (knows.register registered)
          rw [List.append_assoc] at knows'
          refine ⟨s :: accepted, knows', ?_, ?_⟩
          · intro s' member
            rcases List.mem_cons.mp member with rfl | inRest
            · exact List.mem_cons_self
            · exact List.mem_cons_of_mem s (among s' inRest)
          · obtain ⟨_, rfl⟩ := register_eq_ok_iff.mp registered
            exact rule

/-! ## Without redefinition -/

/-- Whether every declared reference with a target kind has a collection to itself. -/
structure Complete (r : Registry) : Prop where
  listed : ∀ kind schema p reference target, r.kinds[kind]? = some schema →
    p ∈ schema.declaredProperties → p.reference? = some reference →
      reference.targetKind? = some target → ∃ name, r.Declares kind p target name ∧
        r.collection? target name = some ⟨kind, p.attributeName, p.storageName⟩
  unshared : ∀ kind kind' p p' target name, r.Declares kind p target name →
    r.Declares kind' p' target name → kind = kind' ∧ p = p'

/-- As no kind is redefined, all that was known stays declared. -/
theorem Knows.inStep (knows : r.Knows schemas) (fixed : r.allowRedefinition = false) :
    r.InStep :=
  knows.inStep_iff.mpr fun s member _ created => ⟨s, knows.kept fixed s member, created⟩

theorem Knows.collection?_eq (knows : r.Knows schemas) {kind target name : String} {p : Property}
    (declares : r.Declares kind p target name) :
    r.collection? target name = some ⟨kind, p.attributeName, p.storageName⟩ := by
  obtain ⟨schema, registered, declared, refers⟩ := declares
  obtain ⟨member, rfl⟩ := knows.of_kinds registered
  exact knows.collections.mpr
    ⟨schema, member, Schema.mem_collections_iff.mpr ⟨p, declared, refers, rfl⟩⟩

theorem Knows.complete (knows : r.Knows schemas) (defined : ∀ s ∈ schemas, s.Defined) :
    r.Complete := by
  constructor
  case listed =>
    intro kind schema p reference target registered declared refers targeted
    obtain ⟨name, named⟩ := (defined schema (knows.of_kinds registered).1).exists_collection
      (Schema.mem_properties_of_declared declared) refers
    have declares : r.Declares kind p target name :=
      ⟨schema, registered, declared, reference, refers, targeted, named⟩
    exact ⟨name, declares, knows.collection?_eq declares⟩
  case unshared =>
    intro kind kind' p p' target name declares declares'
    have same := (knows.collection?_eq declares).symm.trans (knows.collection?_eq declares')
    simp only [Option.some.injEq, ReverseReference.mk.injEq] at same
    obtain ⟨rfl, attr, -⟩ := same
    obtain ⟨schema, registered, declared, -⟩ := declares
    obtain ⟨schema', registered', declared', -⟩ := declares'
    rw [registered] at registered'
    cases registered'
    have distinct := (defined schema (knows.of_kinds registered).1).distinct
    exact ⟨rfl, distinct.eq_of_attributeName (Schema.mem_properties_of_declared declared)
      (Schema.mem_properties_of_declared declared') attr⟩

/-- The registry after calls for some schemas, if kinds may not be redefined. -/
def afterCalls (schemas : List Schema) : Registry :=
  schemas.foldl call (empty false)

/-- However registration is called on a registry that refuses redefinition, a call that fails
leaves the registry as it was, collections and schemas are in step, and every declared reference
has a collection to itself. -/
theorem inStep_of_calls (defined : ∀ s ∈ schemas, s.Defined) :
    (∀ s, (∃ r', (afterCalls schemas).register s = .ok r' ∧
          (registration s).runOn (afterCalls schemas) = (.ok (), r')) ∨
        ∃ cause, (afterCalls schemas).register s = .error cause ∧
          (registration s).runOn (afterCalls schemas) =
            (.error (.failure cause), afterCalls schemas)) ∧
      (afterCalls schemas).InStep ∧ (afterCalls schemas).Complete := by
  obtain ⟨accepted, knows, among, fixed⟩ := (knows_empty false).calls schemas
  constructor
  · intro s
    rw [runOn_registration]
    cases (afterCalls schemas).register s with
    | ok r' => exact .inl ⟨r', rfl, rfl⟩
    | error cause => exact .inr ⟨cause, rfl, rfl⟩
  · exact ⟨knows.inStep fixed, knows.complete fun s member => defined s (among s member)⟩

/-- A comment refers to the story that it is about and to the comment that it answers. -/
def commentDefinition : Definition where
  kind := "Comment"
  declared :=
    [("story", { kind := .reference ⟨.kind "Story", some "comments"⟩ }),
      ("answers", { kind := .reference ⟨.own, none⟩ })]

/-- What the definition puts together. -/
def comment : Schema where
  kind := "Comment"
  properties :=
    [{ kind := .reference ⟨.kind "Story", some "comments"⟩, binding := some ⟨"Comment", "story"⟩,
       storage := some "story" },
     { kind := .reference ⟨.kind "Comment", some "comment_set"⟩,
       binding := some ⟨"Comment", "answers"⟩, storage := some "answers" }]
  declared := ["story", "answers"]
  unindexed := ∅
  ancestry := []
  isExpando := false
  isAbstract := false

/-- A story with one property. -/
def storyDefinition (attr : String) : Definition where
  kind := "Story"
  declared := [(attr, { kind := .string false })]

/-- What the definition puts together. -/
def story (attr : String) : Schema where
  kind := "Story"
  properties :=
    [{ kind := .string false, binding := some ⟨"Story", attr⟩, storage := some attr }]
  declared := [attr]
  unindexed := ∅
  ancestry := []
  isExpando := false
  isAbstract := false

theorem defined_comment : comment.Defined :=
  .assemble (d := commentDefinition) nofun rfl

theorem defined_story {attr : String}
    (assembled : (storyDefinition attr).assemble = .ok (story attr)) : (story attr).Defined :=
  .assemble (fun _ member => absurd member List.not_mem_nil) assembled

/-- A comment before its story, a story that would take the name of the collection, another story,
and the comment once more. -/
def newsroom : List Schema :=
  [comment, story "comments", story "title", comment]

theorem defined_newsroom : ∀ s ∈ newsroom, s.Defined := by
  simp only [newsroom, List.forall_mem_cons]
  exact ⟨defined_comment, defined_story rfl, defined_story rfl, defined_comment, nofun⟩

theorem inStep_newsroom : (∀ s ∈ newsroom, s.Defined) ∧
    ((afterCalls newsroom).kindNames = ["Comment", "Story"] ∧
      (afterCalls newsroom).collection? "Story" "comments" =
        some ⟨"Comment", "story", "story"⟩) ∧
    (afterCalls newsroom).InStep ∧ (afterCalls newsroom).Complete := by
  have outcome : (afterCalls newsroom).kindNames = ["Comment", "Story"] ∧
      (afterCalls newsroom).collection? "Story" "comments" =
        some ⟨"Comment", "story", "story"⟩ := by
    decide +kernel
  exact ⟨defined_newsroom, outcome, (inStep_of_calls defined_newsroom).2⟩

/-! ## With redefinition -/

/-- What kinds that may be redefined leave behind: all collections that were ever created, and the
last schema of each kind.  So the two are in step exactly when every schema of a kind declares all
that the earlier ones of the kind have. -/
theorem inStep_iff_of_foldlM_register (registered : schemas.foldlM register (empty true) = .ok r) :
    (∀ target name reverse, r.collection? target name = some reverse ↔
        ∃ s ∈ schemas, ⟨target, name, reverse⟩ ∈ s.collections) ∧
      (∀ kind, r.kinds[kind]? = (schemas.filter (·.kind = kind)).getLast?) ∧
      (r.InStep ↔ ∀ s ∈ schemas, r.Redeclares s) := by
  have knows : r.Knows schemas := (knows_empty true).foldlM registered
  exact ⟨fun _ _ _ => knows.collections, knows.kinds, knows.inStep_iff⟩

/-- A comment that refers to nothing, with a property named like a collection. -/
def looseDefinition : Definition where
  kind := "Comment"
  declared := [("comment_set", { kind := .string false })]

/-- What the definition puts together. -/
def looseComment : Schema where
  kind := "Comment"
  properties :=
    [{ kind := .string false, binding := some ⟨"Comment", "comment_set"⟩,
       storage := some "comment_set" }]
  declared := ["comment_set"]
  unindexed := ∅
  ancestry := []
  isExpando := false
  isAbstract := false

theorem defined_looseComment : looseComment.Defined :=
  .assemble (d := looseDefinition) nofun rfl

/-- A kind that is only given references when it is redefined stays in step. -/
theorem inStep_tightened :
    ∃ r, [looseComment, story "title", comment].foldlM register (empty true) = .ok r ∧
      r.InStep := by
  obtain ⟨r, registered⟩ :
      ∃ r, [looseComment, story "title", comment].foldlM register (empty true) = .ok r :=
    ⟨_, rfl⟩
  refine ⟨r, registered, (inStep_iff_of_foldlM_register registered).2.2.mpr ?_⟩
  have last : r.kinds["Comment"]? = some comment :=
    (inStep_iff_of_foldlM_register registered).2.1 "Comment"
  simp only [List.forall_mem_cons]
  exact ⟨nofun, nofun, fun c created => ⟨comment, last, created⟩, nofun⟩

/-- When a redefinition drops references, their collections stay: one leads to a property that is
not there any more, another shares its name with a property of its kind. -/
theorem loosened_not_inStep :
    (∀ s ∈ [story "title", comment, looseComment], s.Defined) ∧
      ∃ r, [story "title", comment, looseComment].foldlM register (empty true) = .ok r ∧
        (r.collection? "Story" "comments" = some ⟨"Comment", "story", "story"⟩ ∧
          ∀ p target name, ¬ r.Declares "Comment" p target name) ∧
        (r.collection? "Comment" "comment_set" = some ⟨"Comment", "answers", "answers"⟩ ∧
          ∃ current, r.kinds["Comment"]? = some current ∧
            (current.property? "comment_set").isSome = true) ∧
        ¬ r.InStep := by
  have defined : ∀ s ∈ [story "title", comment, looseComment], s.Defined := by
    simp only [List.forall_mem_cons]
    exact ⟨defined_story rfl, defined_comment, defined_looseComment, nofun⟩
  obtain ⟨r, registered⟩ :
      ∃ r, [story "title", comment, looseComment].foldlM register (empty true) = .ok r :=
    ⟨_, rfl⟩
  have knows : r.Knows [story "title", comment, looseComment] :=
    (knows_empty true).foldlM registered
  have last : r.kinds["Comment"]? = some looseComment := knows.kinds "Comment"
  have created : comment.collections =
      [⟨"Story", "comments", ⟨"Comment", "story", "story"⟩⟩,
        ⟨"Comment", "comment_set", ⟨"Comment", "answers", "answers"⟩⟩] := by
    decide +kernel
  have stories : r.collection? "Story" "comments" = some ⟨"Comment", "story", "story"⟩ :=
    knows.collections.mpr ⟨comment, by simp, by simp [created]⟩
  have answers : r.collection? "Comment" "comment_set" =
      some ⟨"Comment", "answers", "answers"⟩ :=
    knows.collections.mpr ⟨comment, by simp, by simp [created]⟩
  have undeclared : ∀ p target name, ¬ r.Declares "Comment" p target name := by
    rintro p target name ⟨current, now, declared, reference, refers, -⟩
    rw [last] at now
    cases now
    have text : p.reference? = none := by
      have only : p ∈ looseComment.properties := Schema.mem_properties_of_declared declared
      rw [List.mem_singleton.mp only]
      rfl
    rw [text] at refers
    contradiction
  refine ⟨defined, r, registered, ⟨stories, undeclared⟩, ⟨answers, looseComment, last, rfl⟩, ?_⟩
  intro inStep
  obtain ⟨p, declares, -⟩ := inStep.sourced _ _ _ stories
  exact undeclared p _ _ declares

end Registry

end EntityStore
