import EntityStore.Proofs.Client.Visits
import EntityStore.Proofs.Schema.Registration

/-!
# Where references and parents lead

A remembered instance is only answered for the key that is held now, and else the instance of that
key is fetched.  So whatever an instance has been through, a reference leads to the instance of its
key, which is of the kind that it asks for, and a parent is the instance of the key of the parent.
-/

namespace EntityStore

namespace Model

variable {m : Model}

/-! ## Where an instance leads -/

/-- Whether the references and the parent of an instance lead where they should. -/
structure Resolves (m : Model) : Prop where
  /-- A reference leads to the instance of the key that it holds, of the kind that it asks for. -/
  reference : ∀ (around : Surroundings) (s : Store), s.Reached → ∀ name t m' s',
    (around.client.referenceInPlace name).runOn (m, s) = (.ok (some t), m', s') →
      (∃ key, t.key = .ok key ∧ m.referenceKey name = .ok (some key) ∧
        m'.referenceKey name = .ok (some key)) ∧
      ∀ p r kind, m.referenceProperty name = .ok (p, r) → r.targetKind? = some kind →
        t.schema.isSubkindOf kind = true
  parent : ∀ (around : Surroundings) (s : Store), s.Reached → ∀ parent m' s',
    around.client.parentInPlace.runOn (m, s) = (.ok (some parent), m', s') →
      ∃ key, parent.key = .ok key ∧ m.parentKey? = some key ∧ m'.parentKey? = some key
  /-- Following a reference in vain changes nothing. -/
  unfollowed : ∀ (around : Surroundings) (s : Store) name cause m' s',
    (around.client.referenceInPlace name).runOn (m, s) = (.error cause, m', s') → m' = m
  unassigned : ∀ name target cause m',
    (setReferenceInPlace name target).runOn m = (.error cause, m') → m' = m
  /-- What was assigned last is found without the store. -/
  assigned : ∀ name target m', (setReferenceInPlace name target).runOn m = (.ok (), m') →
    ∀ (around : Surroundings) (s : Store),
      (around.client.referenceInPlace name).runOn (m', s) = (.ok (some target), m', s)

/-- What was assigned is remembered together with its key. -/
theorem reference_of_setReference {name : String} {target m' : Model}
    (answered : m.setReference name target = .ok m') {σ T : Type} (c : Client σ T) (s : σ) :
    (c.reference m' name).runOn s = (.ok (m', some target), s) := by
  simp only [setReference, Failure.bind_eq_ok_iff, Failure.guard_eq_ok_iff, assign,
    Failure.pure_eq_ok_iff] at answered
  obtain ⟨⟨p, r⟩, named, -, -, -, key, keyed, _, ⟨w, validated, rfl⟩, rfl⟩ := answered
  cases validate_key (reference?_of_referenceProperty named) validated
  have named' : ((m.hold p.attributeName (.key key)).remember name target).referenceProperty name =
      .ok (p, r) :=
    named
  have holds : ((m.hold p.attributeName (.key key)).remember name target).referenceKey name =
      .ok (some key) := by
    rw [referenceKey, named']
    change Except.ok ((m.hold p.attributeName (.key key)).value p.attributeName).key? = _
    rw [value_hold, if_pos rfl]
    rfl
  simp [Client.reference, Action.runOn_bind, Action.runOn_lift, named', holds, Except.mapError,
    resolved?_remember, keyed, Except.toOption]

theorem Coherent.resolves (coherent : m.Coherent) : m.Resolves where
  reference := by
    intro around s reached name t m' s' answered
    rcases Client.follows_of_reference (Client.reference_of_inPlace answered) with
      ⟨-, unknown⟩ | ⟨key, t', holds, same, follows⟩
    · cases unknown
    · cases same
      rcases coherent.follows holds follows with ⟨-, kept, keyed, right⟩
      refine ⟨⟨key, keyed, holds, kept.trans holds⟩, ?_⟩
      intro p r kind named asked
      have checked := right p r named
      simp only [checkTarget, asked] at checked
      exact (Failure.require_eq_ok_iff.mp checked).1
  parent := by
    intro around s reached parent m' s' answered
    rcases Client.rises_of_parent (Client.parent_of_inPlace answered) with ⟨remembered, rises⟩
    rcases coherent.rises reached rises with ⟨coherent', same⟩
    rcases coherent'.parent parent remembered.symm with ⟨key, keyed, above⟩
    exact ⟨key, keyed, same.symm.trans above, above⟩
  unfollowed := by
    intro around s name cause m' s' failed
    exact Client.eq_of_referenceInPlace_error failed
  unassigned := by
    intro name target cause m' failed
    exact comesTo_setReference.unchanged failed
  assigned := by
    intro name target m' assigned around s
    have answered := comesTo_setReference.eq_ok assigned
    rw [Client.runOn_referenceInPlace, reference_of_setReference answered]

/-- Whatever a new instance goes through, its references and its parent lead where they should. -/
theorem resolves_of_build {b : Builder} {moment : Moment} (defined : b.schema.Defined)
    (built : b.build moment = .ok m) (visits : List Visit) : (m.visited visits).Resolves := by
  have addressed := addressed_of_build defined built
  exact ((coherent_of_build built).visits addressed visits).resolves

/-- The key of a story. -/
def storyKey (name : String) : Key :=
  ⟨[⟨"Story", some (.name name)⟩]⟩

/-- A story that is known by its key. -/
def storyNamed (name : String) : Model where
  schema := Registry.story "title"
  identity := .key (storyKey name)

/-- Surroundings in which stories can be rebuilt. -/
def withStories : Surroundings where
  registry := (Registry.empty false).withSchema (Registry.story "title")
  moment := midnight
  configuration := {}

/-- The property of a comment assigns the key of another story, without the comment noticing. -/
def reassigned : Visit where
  use := .assign
    { kind := .reference ⟨.kind "Story", none⟩, binding := some ⟨"Comment", "story"⟩ }
    (.key (storyKey "second"))
  around := withStories
  store := {}
  reached := Store.reached_empty

/-- The comment is asked for its story after that has been put. -/
def followed : Visit where
  use := .reference "story"
  around := withStories
  store :=
    ((World.ofStore {}).run [.direct (.put [{ key := storyKey "second" }]) ⟨none, .strong⟩]).store
  reached := ⟨_, rfl⟩

/-- A comment on the first story. -/
def answer : Builder where
  schema := Registry.comment
  fields := [("story", .reference (storyNamed "first"))]

/-- A comment that still remembers its first story leads to the second one. -/
theorem resolves_reassigned :
    ∃ comment, answer.schema.Defined ∧ answer.build midnight = .ok comment ∧
      ((comment.visited [reassigned]).resolved? "story").map (·.key) =
        some (.ok (storyKey "first")) ∧
      ((comment.visited [reassigned, followed]).resolved? "story").map (·.key) =
        some (.ok (storyKey "second")) ∧
      (comment.visited [reassigned, followed]).Resolves := by
  have defined : answer.schema.Defined := Registry.defined_comment
  have entry : ∃ comment, answer.build midnight = .ok comment ∧
      ((comment.visited [reassigned]).resolved? "story").map (·.key) =
        some (.ok (storyKey "first")) ∧
      ((comment.visited [reassigned, followed]).resolved? "story").map (·.key) =
        some (.ok (storyKey "second")) :=
    ⟨_, rfl, rfl, rfl⟩
  rcases entry with ⟨comment, built, before, after⟩
  exact ⟨comment, defined, built, before, after, resolves_of_build defined built _⟩

end Model

end EntityStore
