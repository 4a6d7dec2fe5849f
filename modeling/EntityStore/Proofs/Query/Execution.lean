import EntityStore.Proofs.Query.Merge
import EntityStore.Proofs.Store.Records
import EntityStore.Query.Execution
import EntityStore.Store.Transaction

/-!
# Executing queries on the memory store

On the memory store an execution reads and never writes.  The results of a query are the selection
of its single primitive query, or the merge of the selections of all of them.
-/

namespace EntityStore

/-- A client of a memory store and nothing else. -/
def Store.client (retries : Nat) (registry : Registry) (moment : Action Store Moment)
    (configuration : Configuration) : Client Store Transaction where
  datastore := Store.datastore .whole retries
  registry _ := registry
  moment
  configuration

/-- A client without kinds, with a clock that stands still and with the settings as they come. -/
def Store.plainClient : Client Store Transaction :=
  Store.client 3 {} (pure { now := ⟨.epoch, .midnight⟩ }) {}

namespace Query

/-- A query compiles to one primitive query exactly when it has one set. -/
theorem compile_cases (q : Query) :
    (∃ set, q.sets = [set] ∧ q.compile = .single (q.primitive set)) ∨
      q.compile = .multiple (q.sets.map q.primitive) q.orders := by
  unfold compile
  split
  · rename_i set oneSet
    exact .inl ⟨set, oneSet, rfl⟩
  · exact .inr rfl

/-- The form in which a result of a query is handed out. -/
def project (q : Query) : Entity → Entity :=
  (q.primitive []).project

theorem project_of_not_keysOnly {q : Query} (wholeRecords : q.keysOnly = false) :
    q.project = id := by
  funext e
  simp [project, primitive, PrimitiveQuery.project, wholeRecords]

/-- What each set of a query selects from the store. -/
def selections (q : Query) (s : Store) : List (List Entity) :=
  q.sets.map fun set => (q.primitive set).select s.entities

/-- Whether a record of the store is a result of one of the sets of a query. -/
def Matches (q : Query) (s : Store) (e : Entity) : Prop :=
  e ∈ s.entities ∧ ∃ set ∈ q.sets, (q.primitive set).accepts e ∧ (q.primitive set).reaches e

theorem matches_iff (q : Query) (s : Store) (e : Entity) :
    q.Matches s e ↔ ∃ l ∈ q.selections s, e ∈ l := by
  simp only [Matches, selections, List.mem_map]
  constructor
  · rintro ⟨stored, set, ofQuery, result⟩
    exact ⟨_, ⟨set, ofQuery, rfl⟩, ((q.primitive set).mem_select s.entities e).mpr ⟨stored, result⟩⟩
  · rintro ⟨_, ⟨set, ofQuery, rfl⟩, selected⟩
    obtain ⟨stored, result⟩ := ((q.primitive set).mem_select s.entities e).mp selected
    exact ⟨stored, set, ofQuery, result⟩

/-- Selections are strictly ascending and draw from the store. -/
theorem selections_spec {q : Query} {s : Store} {l : List Entity} (selected : l ∈ q.selections s) :
    l.Pairwise (fun a b => a.order b q.orders = .lt) ∧ l ⊆ s.entities := by
  obtain ⟨set, _, rfl⟩ := List.mem_map.mp selected
  refine ⟨((q.primitive set).listing_select s.distinctKeys_entities).ascending, ?_⟩
  intro e member
  exact (((q.primitive set).mem_select s.entities e).mp member).1

/-- The results of a query: what its sets select, merged. -/
def results (q : Query) (s : Store) : List Entity :=
  Merge.merge q.orders (q.selections s)

theorem listing_results (q : Query) (s : Store) : Listing q.orders (q.Matches s) (q.results s) := by
  have merged := Merge.listing_merge s.distinctKeys_entities
    (fun l selected => (selections_spec (q := q) selected).2)
    (fun l selected => (selections_spec (q := q) selected).1.imp Entity.isLE_of_order_lt)
  exact merged.congr fun e => (q.matches_iff s e).symm

/-- The one set of a query selects all its results. -/
theorem results_of_single {q : Query} {set : List Clause} (oneSet : q.sets = [set]) (s : Store) :
    q.results s = (q.primitive set).select s.entities := by
  apply (q.listing_results s).unique
  apply ((q.primitive set).listing_select s.distinctKeys_entities).congr
  intro e
  simp [Matches, oneSet]

/-- Whether a query can resume where its cursor says: it has one set or begins at the start. -/
def Resumable (q : Query) : Prop :=
  q.cursor = none ∨ ∃ set, q.sets = [set]

/-- A query that can resume compiles to one primitive query, or merges several from the start. -/
theorem Resumable.cases {q : Query} (resumable : q.Resumable) :
    (∃ set, q.sets = [set] ∧ q.compile = .single (q.primitive set)) ∨
      (q.compile = .multiple (q.sets.map q.primitive) q.orders ∧ q.cursor = none) := by
  rcases q.compile_cases with single | multiple
  · exact .inl single
  · rcases resumable with none | ⟨set, oneSet⟩
    · exact .inr ⟨multiple, none⟩
    · simp [compile, oneSet] at multiple

end Query

namespace Execution

@[simp]
theorem runOn_query {σ : Type} (state : Query × σ) : query.runOn state = (.ok state.1, state) :=
  rfl

@[simp]
theorem runOn_updateQuery {σ : Type} (f : Query → Query) (state : Query × σ) :
    (updateQuery f).runOn state = (.ok (), (f state.1, state.2)) :=
  rfl

variable (retries : Nat) (registry : Registry) (moment : Action Store Moment)
  (configuration : Configuration)

@[simp]
theorem runOn_runQuery (p : PrimitiveQuery) (window : Window) (options : CallOptions) (q : Query)
    (s : Store) :
    (lift ((Store.client retries registry moment configuration).datastore.runQuery p window
      options)).runOn (q, s) = (.ok (s.runQuery p window), (q, s)) :=
  rfl

@[simp]
theorem runOn_count (p : PrimitiveQuery) (limit : Option UInt64) (options : CallOptions)
    (q : Query) (s : Store) :
    (lift ((Store.client retries registry moment configuration).datastore.count p limit
      options)).runOn (q, s) = (.ok (s.count p limit), (q, s)) :=
  rfl

theorem runOn_fetchSets (ps : List PrimitiveQuery) (limit : Option UInt64) (q : Query)
    (s : Store) :
    (fetchSets (Store.client retries registry moment configuration) ps limit).runOn (q, s) =
      (.ok (ps.map fun p => (s.runQuery p ⟨limit, 0⟩).entities), (q, s)) := by
  apply Action.runOn_mapM
  intro p
  rw [Action.runOn_bind, runOn_runQuery]
  rfl

/-- A query with one set hands out a segment of what the set selects. -/
theorem runOn_fetchEntities_single {q : Query} {set : List Clause} (oneSet : q.sets = [set])
    (window : Window) (s : Store) :
    ∃ q', (fetchEntities (Store.client retries registry moment configuration) window).runOn (q, s) =
      (.ok ((window.segment ((q.primitive set).select s.entities)).map q.project), (q', s)) := by
  have single : q.compile = .single (q.primitive set) := by
    simp [Query.compile, oneSet]
  have handedOut : (window.segment ((q.primitive set).select s.entities)).map q.project =
      ((q.primitive set).run s.entities window).entities :=
    ((q.primitive set).run_entities s.entities window).symm
  rw [handedOut]
  simp [fetchEntities, Action.runOn_bind, single, Except.map, Store.runQuery]

theorem runOn_fetchEntities_of_single {q : Query} (wholeRecords : q.keysOnly = false)
    {set : List Clause} (oneSet : q.sets = [set]) (window : Window) (s : Store) :
    ∃ q', (fetchEntities (Store.client retries registry moment configuration) window).runOn (q, s) =
      (.ok (window.segment ((q.primitive set).select s.entities)), (q', s)) := by
  obtain ⟨q', fetched⟩ := runOn_fetchEntities_single retries registry moment configuration oneSet
    window s
  rw [Query.project_of_not_keysOnly wholeRecords, List.map_id] at fetched
  exact ⟨q', fetched⟩

/-- The limit up to which every set is fetched to fill a window. -/
def coveringLimit (window : Window) : Option UInt64 :=
  window.limit.map (saturatingSum · window.offset)

/-- What the sets of a query hand out to be merged into a window. -/
def parts (q : Query) (window : Window) (s : Store) : List (List Entity) :=
  (q.selections s).map (Window.segment ⟨coveringLimit window, 0⟩)

theorem parts_unlimited (q : Query) (s : Store) : parts q {} s = q.selections s := by
  have unlimited : coveringLimit {} = none := rfl
  rw [parts, unlimited, Window.segment_unlimited, List.map_id]

/-- A query with several sets merges what they hand out, as it is handed out. -/
theorem runOn_fetchEntities_multiple {q : Query}
    (multiple : q.compile = .multiple (q.sets.map q.primitive) q.orders)
    (noCursor : q.cursor = none) (window : Window) (s : Store) :
    ∃ q', (fetchEntities (Store.client retries registry moment configuration) window).runOn (q, s) =
      (.ok (window.segment (Merge.merge q.orders ((parts q window s).map (List.map q.project)))),
        (q', s)) := by
  have fetched : (q.sets.map q.primitive).map
      (fun p => (s.runQuery p ⟨coveringLimit window, 0⟩).entities) =
        (parts q window s).map (List.map q.project) := by
    rw [parts, Query.selections, List.map_map, List.map_map, List.map_map]
    congr 1
    funext set
    exact (q.primitive set).run_entities s.entities _
  rw [← fetched]
  rcases window with ⟨limit | limit, offset⟩ <;>
    simp [fetchEntities, Action.runOn_bind, multiple, noCursor, runOn_fetchSets, Window.segment,
      coveringLimit, Except.map]

theorem runOn_fetchEntities_of_multiple {q : Query} (wholeRecords : q.keysOnly = false)
    (multiple : q.compile = .multiple (q.sets.map q.primitive) q.orders)
    (noCursor : q.cursor = none) (window : Window) (s : Store) :
    ∃ q', (fetchEntities (Store.client retries registry moment configuration) window).runOn (q, s) =
      (.ok (window.segment (Merge.merge q.orders (parts q window s))), (q', s)) := by
  obtain ⟨q', fetched⟩ := runOn_fetchEntities_multiple retries registry moment configuration
    multiple noCursor window s
  rw [Query.project_of_not_keysOnly wholeRecords, List.map_id_fun, List.map_id] at fetched
  exact ⟨q', fetched⟩

theorem runOn_fetchEntities_of_cursor {q : Query} {ps : List PrimitiveQuery}
    {orders : List SortOrder} (multiple : q.compile = .multiple ps orders)
    (resumes : q.cursor.isSome) (window : Window) (s : Store) :
    (fetchEntities (Store.client retries registry moment configuration) window).runOn (q, s) =
      (.error (.failure .cursorOnDisjunction), (q, s)) := by
  simp [fetchEntities, Action.runOn_bind, multiple, resumes]

/-- Running a query that can resume answers its results. -/
theorem runOn_run {q : Query} (wholeRecords : q.keysOnly = false) (resumable : q.Resumable)
    (s : Store) :
    ∃ q', (run (Store.client retries registry moment configuration)).runOn (q, s) =
      (.ok (q.results s), (q', s)) := by
  rcases resumable.cases with ⟨set, oneSet, _⟩ | ⟨multiple, noCursor⟩
  · obtain ⟨q', ran⟩ := runOn_fetchEntities_of_single retries registry moment configuration
      wholeRecords oneSet {} s
    rw [Window.segment_unlimited, ← Query.results_of_single oneSet s] at ran
    exact ⟨q', ran⟩
  · obtain ⟨q', ran⟩ := runOn_fetchEntities_of_multiple retries registry moment configuration
      wholeRecords multiple noCursor {} s
    rw [parts_unlimited, Window.segment_unlimited] at ran
    exact ⟨q', ran⟩

/-- Fetching hands out what becomes of the records of the window. -/
theorem runOn_fetch_of_pure {α : Type} {convert : Conversion Store α} {f : Entity → α}
    (converts : ∀ schema e, convert schema e = pure (f e)) {q : Query} {limit offset : UInt64}
    (positive : limit ≠ 0) (s : Store) :
    ((fetch (Store.client retries registry moment configuration) convert limit offset).runOn
        (q, s)).1 =
      ((fetchEntities (Store.client retries registry moment configuration)
        ⟨some limit, offset⟩).runOn (q, s)).1.map (List.map f) := by
  simp only [fetch, positive, if_false, Action.runOn_bind]
  rcases (fetchEntities _ _).runOn (q, s) with ⟨e | es, q', s'⟩
  · rfl
  · have handedOut : ∀ e, (lift (convert q'.schema e)).runOn (q', s') = (.ok (f e), (q', s')) := by
      intro e
      rw [converts]
      rfl
    simp [Action.runOn_mapM handedOut, Except.map]

end Execution

end EntityStore
