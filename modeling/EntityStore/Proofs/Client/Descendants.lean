import EntityStore.Proofs.Client.Visits
import EntityStore.Proofs.Query.FilterText

/-!
# What lies below an instance

The store can only select what lies at or below a key.  The query for the descendants of an instance
asks besides for keys that come after the own one, which among those at or below it are the ones
below it.  Results come in the order of their keys, where what stands above comes first.
-/

namespace EntityStore

/-- A filter for later keys lets pass the records whose keys come after one. -/
theorem Clause.accepts_laterKey_iff {e : Entity} {key : Key} :
    accepts ⟨Key.propertyName, .greaterThan, .key key⟩ e = true ↔ compare e.key key = .gt := by
  have reading : (Value.key e.key).order (.key key) = compare (some e.key) (some key) := rfl
  have compared : compare (some e.key) (some key) = compare e.key key := rfl
  simp [accepts, Entity.indexedValue, Operator.holds, Operator.holdsForOne, Operator.compares,
    Value.sameFamily, Value.family, Operator.accepts, reading, compared]

namespace Client

variable {around : Surroundings} {m : Model} {key : Key}

/-- The query for what lies below a key. -/
def below (around : Surroundings) (key : Key) : Query :=
  { around.client.kindlessQuery with
    ancestor := some key
    sets := [[⟨Key.propertyName, .greaterThan, .key key⟩]] }

/-- An instance that has a key can be asked for its descendants. -/
theorem descendants_eq_ok (keyed : m.key = .ok key) (identified : key.hasIdentifier = true) :
    around.client.descendants m = .ok (below around key) := by
  have named : Key.propertyName ≠ "" := by decide
  have inked : Key.propertyName.toList.all (!Text.isBlank ·) = true := rfl
  have parsed : FilterText.parse (Key.propertyName ++ " >") =
      .ok (Key.propertyName, .greaterThan) :=
    FilterText.parse_symbol named (by simpa using inked) .greaterThan
  have restricted : around.client.kindlessQuery.under key =
      .ok { around.client.kindlessQuery with ancestor := some key } := if_pos identified
  have filtered :
      ({ around.client.kindlessQuery with ancestor := some key } : Query).filter
        (Key.propertyName ++ " >") (.key key) = .ok (below around key) := by
    rw [Query.filter, parsed]
    rfl
  simp only [descendants, keyed, Failure.bind_eq_ok_iff]
  exact ⟨key, rfl, _, restricted, filtered⟩

/-- Its results are the stored records whose keys it stands above. -/
theorem matches_below_iff (nonempty : key.path ≠ []) (s : Store) (e : Entity) :
    (below around key).Matches s e ↔ e ∈ s.entities ∧ key.Above e.key := by
  rw [Key.above_iff_compare nonempty]
  simp [Query.Matches, below, kindlessQuery, Query.kindless, Query.primitive, Query.kind?,
    PrimitiveQuery.accepts, PrimitiveQuery.reaches, Clause.accepts_laterKey_iff]

end Client

namespace Model

variable {m₀ : Model} {key : Key}

/-- Whatever an instance has been through, the query for its descendants lists exactly the stored
records, of whatever kind, whose keys its own key stands above, each of them once and before its own
descendants.  The instance itself is never among them. -/
theorem descendants_exact (obtained : m₀.Obtained) (visits : List Visit)
    (keyed : (m₀.visited visits).key = .ok key) (around : Surroundings) (s : Store) :
    ∃ q es q', around.client.descendants (m₀.visited visits) = .ok q ∧
      (Execution.run around.client).runOn (q, s) = (.ok es, (q', s)) ∧
      (∀ e, e ∈ es ↔ e ∈ s.entities ∧ key.Above e.key) ∧
      (es.map (·.key)).Nodup ∧
      es.Pairwise (fun earlier later => ¬ later.key.Above earlier.key) ∧
      ∀ e ∈ es, e.key ≠ key := by
  have identified := ((obtained.addressed.visits visits).knows_of_key keyed).identified
  have nonempty : key.path ≠ [] := by
    intro empty
    simp [Key.hasIdentifier, Key.id?, empty] at identified
  rcases Execution.runOn_run 0 around.registry (pure around.moment) around.configuration
    (q := Client.below around key) rfl (.inl rfl) s with ⟨q', ran⟩
  have listing := ((Client.below around key).listing_results s).congr
    (Client.matches_below_iff nonempty s)
  refine ⟨_, _, q', Client.descendants_eq_ok keyed identified, ran, listing.mem_iff, ?_, ?_, ?_⟩
  · exact Store.nodup_keys_of_listing listing fun e wanted => wanted.1
  · apply listing.ascending.imp
    intro earlier later before above
    have inKeyOrder : earlier.order later [] = compare earlier.key later.key := rfl
    have behind : earlier.order later [] = .gt := by
      rw [inKeyOrder, Std.OrientedCmp.gt_of_lt above.compare_eq_lt]
    cases before.symm.trans behind
  · rintro e listed rfl
    have after := ((listing.mem_iff e).mp listed).2.compare_eq_lt
    rw [Std.compare_self] at after
    contradiction

/-- The key of the story that is put. -/
def firstStory : Key :=
  ⟨[⟨"Story", some (.name "first")⟩]⟩

/-- A key after everything below the first story. -/
def laterStory : Key :=
  ⟨[⟨"Story", some (.name "second")⟩]⟩

/-- The key of a comment on the first story. -/
def firstComment : Key :=
  ⟨firstStory.path ++ [⟨"Comment", some (.number 1)⟩]⟩

/-- The key of an answer to the comment, two steps below the story. -/
def answerToComment : Key :=
  ⟨firstComment.path ++ [⟨"Comment", some (.number 2)⟩]⟩

/-- A story, a comment on it with an answer, and another story, which comes after all of them. -/
def discussion : Store :=
  [laterStory, answerToComment, firstComment, firstStory].foldl
    (fun s key => s.write key (some { key })) {}

/-- One put into an empty store. -/
def putOnce : List Visit :=
  [⟨.operate .put, atMidnight, {}, Store.reached_empty⟩]

/-- The story that was put finds the answer to the comment on it, and not the later story. -/
theorem descendants_of_story :
    ∃ schema story, titled.assemble = .ok schema ∧
      Builder.build { schema, name := some "first" } midnight = .ok story ∧
      (story.visited putOnce).key = .ok firstStory ∧
        ∃ q es q', atMidnight.client.descendants (story.visited putOnce) = .ok q ∧
          (Execution.run atMidnight.client).runOn (q, discussion) = (.ok es, (q', discussion)) ∧
          (∃ e ∈ es, e.key = answerToComment) ∧ (∀ e ∈ es, e.key ≠ laterStory) ∧
          es.Pairwise (fun earlier later => ¬ later.key.Above earlier.key) := by
  have entry : ∃ schema story, titled.assemble = .ok schema ∧
      Builder.build { schema, name := some "first" } midnight = .ok story ∧
      (story.visited putOnce).key = .ok firstStory :=
    ⟨_, _, rfl, rfl, rfl⟩
  rcases entry with ⟨schema, story, assembled, built, keyed⟩
  rcases descendants_exact (.built midnight (defined_of_titled assembled) built) putOnce keyed
    atMidnight discussion with ⟨q, es, q', asked, ran, members, -, parentsFirst, -⟩
  refine ⟨schema, story, assembled, built, keyed, q, es, q', asked, ran, ?_, ?_, parentsFirst⟩
  · have stored : ({ key := answerToComment } : Entity) ∈ discussion.entities :=
      Store.mem_entities.mpr rfl
    have below : firstStory.Above answerToComment := .climb (.parent rfl) rfl
    exact ⟨{ key := answerToComment }, (members _).mpr ⟨stored, below⟩, rfl⟩
  · intro e listed same
    rcases Key.above_iff.mp (same ▸ ((members e).mp listed).2) with ⟨-, below, -, path⟩
    simp [laterStory, firstStory] at path

end Model

end EntityStore
