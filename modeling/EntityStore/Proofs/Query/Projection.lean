import EntityStore.Proofs.Failure
import EntityStore.Proofs.Order.Preorder
import EntityStore.Proofs.Query.FanOut

/-!
# Asking for keys

A query for keys hands out records without their fields.  The calls that build a query treat it as
they treat the query for whole records, except that some of them refuse it.  One set selects and
sorts whole records either way, so its keys come out in the same places.  Several sets are merged
after the fields are gone, which keeps every record in its place as long as the orders look at the
keys first.

Only a disjunction multiplies the sets of a query that already asks for keys: membership and
inequality are refused.
-/

namespace EntityStore

/-! ## Merging what is left of records -/

namespace Merge

variable {orders : List SortOrder} {pool : List Entity} {part : Entity → Entity}

/-- A map that keeps the keys of records, and the order of the records of a pool. -/
structure KeepsPlaces (orders : List SortOrder) (pool : List Entity) (part : Entity → Entity) :
    Prop where
  key_eq : ∀ e, (part e).key = e.key
  order_eq : ∀ a ∈ pool, ∀ b ∈ pool, (part a).order (part b) orders = a.order b orders

theorem mem_of_takeLeast {lists rest : List (List Entity)} {e : Entity}
    (drawn : ∀ l ∈ lists, l ⊆ pool) (taken : takeLeast orders lists = some (e, rest)) :
    e ∈ pool ∧ ∀ l ∈ rest, l ⊆ pool := by
  obtain ⟨before, tail, after, rfl, rfl⟩ := exists_split_of_takeLeast taken
  constructor
  · exact drawn (e :: tail) (by simp) List.mem_cons_self
  · intro l listed
    rcases List.mem_append.mp listed with inBefore | inRest
    · exact drawn l (by simp [inBefore])
    · rcases List.mem_cons.mp inRest with rfl | inAfter
      · exact fun x member => drawn (e :: l) (by simp) (List.mem_cons_of_mem e member)
      · exact drawn l (by simp [inAfter])

theorem takeLeast_map (keeps : KeepsPlaces orders pool part) {lists : List (List Entity)}
    (drawn : ∀ l ∈ lists, l ⊆ pool) :
    takeLeast orders (lists.map (List.map part)) =
      (takeLeast orders lists).map fun (e, rest) => (part e, rest.map (List.map part)) := by
  induction lists with
  | nil => rfl
  | cons list lists ih =>
      have drawnRest : ∀ l ∈ lists, l ⊆ pool := fun l listed =>
        drawn l (List.mem_cons_of_mem list listed)
      cases list with
      | nil =>
          simp only [List.map_cons, List.map_nil, takeLeast, ih drawnRest, Option.map_map]
          rfl
      | cons head tail =>
          have headDrawn : head ∈ pool :=
            drawn (head :: tail) List.mem_cons_self List.mem_cons_self
          simp only [List.map_cons, takeLeast, ih drawnRest]
          cases taken : takeLeast orders lists with
          | none => rfl
          | some least =>
              rcases least with ⟨e, rest⟩
              have eDrawn := (mem_of_takeLeast drawnRest taken).1
              simp only [Option.map_some, keeps.order_eq e eDrawn head headDrawn]
              split <;> rfl

theorem interleave_map (keeps : KeepsPlaces orders pool part) {lists : List (List Entity)}
    (drawn : ∀ l ∈ lists, l ⊆ pool) :
    interleave orders (lists.map (List.map part)) = (interleave orders lists).map part := by
  induction lists using interleave.induct orders with
  | case1 lists nothing =>
      have nothingMapped : takeLeast orders (lists.map (List.map part)) = none := by
        rw [takeLeast_map keeps drawn, nothing]
        rfl
      rw [interleave_of_nothing nothing, interleave_of_nothing nothingMapped]
      rfl
  | case2 lists e rest taken ih =>
      have takenMapped : takeLeast orders (lists.map (List.map part)) =
          some (part e, rest.map (List.map part)) := by
        rw [takeLeast_map keeps drawn, taken]
        rfl
      rw [interleave_of_taken taken, interleave_of_taken takenMapped,
        ih (mem_of_takeLeast drawn taken).2]
      rfl

theorem firstOfEachKey_map (keys : ∀ e, (part e).key = e.key) (seen : List Key)
    (es : List Entity) : firstOfEachKey seen (es.map part) = (firstOfEachKey seen es).map part := by
  induction es generalizing seen with
  | nil => rfl
  | cons e rest ih =>
      simp only [List.map_cons, firstOfEachKey, keys e, ih]
      split <;> rfl

/-- Merging what is left of records is what is left of merging them. -/
theorem merge_map (keeps : KeepsPlaces orders pool part) {lists : List (List Entity)}
    (drawn : ∀ l ∈ lists, l ⊆ pool) :
    merge orders (lists.map (List.map part)) = (merge orders lists).map part := by
  rw [merge, merge, interleave_map keeps drawn, firstOfEachKey_map keeps.key_eq]

end Merge

namespace Value

theorem order_key (k k' : Key) : order (.key k) (.key k') = compare k k' := by
  simp [order_eq_orderByType, family, orderByType]

end Value

namespace Query

@[simp]
theorem key_project (q : Query) (e : Entity) : (q.project e).key = e.key := by
  unfold project PrimitiveQuery.project
  split <;> rfl

/-- Whether a query has no orders or sorts by the keys before anything else. -/
def OrdersByKey (q : Query) : Prop :=
  q.orders = [] ∨ ∃ direction rest, q.orders = ⟨Key.propertyName, direction⟩ :: rest

theorem order_eq_of_key_ne {a b a' b' : Entity} (aKey : a'.key = a.key) (bKey : b'.key = b.key)
    (different : a.key ≠ b.key) {q : Query} (byKey : q.OrdersByKey) :
    a'.order b' q.orders = a.order b q.orders := by
  rcases byKey with unordered | ⟨direction, rest, orders⟩
  · rw [unordered]
    simp [Entity.order, Entity.position, Position.order, Entity.sortValues, orderValues, aKey, bKey]
  · have decided : direction.apply (compare a.key b.key) ≠ .eq := by
      have keys : compare a.key b.key ≠ .eq := fun tie =>
        different (Std.LawfulEqOrd.eq_of_compare tie)
      cases direction <;> simpa [Direction.apply] using keys
    rw [orders]
    simp only [Entity.order, Entity.position, Position.order, Entity.sortValues, List.map_cons,
      orderValues, Entity.sortValue, Entity.indexedValue, if_true, orderOptional, Value.order_key,
      aKey, bKey]
    cases place : direction.apply (compare a.key b.key) with
    | eq => exact absurd place decided
    | lt | gt => rfl

/-- The keys keep the places of the records when the orders look at them first. -/
theorem keepsPlaces_project {q : Query} (byKey : q.OrdersByKey) {pool : List Entity}
    (distinct : Entity.DistinctKeys pool) : Merge.KeepsPlaces q.orders pool q.project where
  key_eq := q.key_project
  order_eq a aMem b bMem := by
    by_cases same : a.key = b.key
    · have equal : a = b := distinct.eq_of_key_eq aMem bMem same
      rw [equal, Entity.order_self, Entity.order_self]
    · exact order_eq_of_key_ne (q.key_project a) (q.key_project b) same byKey

/-- Whether merging what a query hands out keeps the records in their places: it hands out whole
records, has nothing to merge, or sorts by the keys first. -/
def Mergeable (q : Query) : Prop :=
  q.keysOnly = false ∨ q.sets.length ≤ 1 ∨ q.OrdersByKey

end Query

namespace Execution

variable (retries : Nat) (registry : Registry) (moment : Action Store Moment)
  (configuration : Configuration)

theorem parts_subset {q : Query} {window : Window} {s : Store} {l : List Entity}
    (part : l ∈ parts q window s) : l ⊆ s.entities := by
  obtain ⟨whole, selected, rfl⟩ := List.mem_map.mp part
  have inside := (Query.selections_spec selected).2
  rw [Window.segment]
  split
  · exact fun e member => inside (List.mem_of_mem_drop (List.mem_of_mem_take member))
  · exact fun e member => inside (List.mem_of_mem_drop member)

/-- The records whose keys a window of a query shows. -/
def shown (q : Query) (window : Window) (s : Store) : List Entity :=
  match q.sets with
  | [set] => window.segment ((q.primitive set).select s.entities)
  | _ => window.segment (Merge.merge q.orders (parts q window s))

theorem segment_map {α β : Type} (window : Window) (f : α → β) (l : List α) :
    window.segment (l.map f) = (window.segment l).map f := by
  unfold Window.segment
  split <;> simp [List.map_take, List.map_drop]

theorem merge_parts_project {q : Query} (mergeable : q.Mergeable)
    (multiple : ∀ set, q.sets ≠ [set]) (window : Window) (s : Store) :
    Merge.merge q.orders ((parts q window s).map (List.map q.project)) =
      (Merge.merge q.orders (parts q window s)).map q.project := by
  rcases mergeable with whole | few | byKey
  · rw [Query.project_of_not_keysOnly whole, List.map_id_fun, List.map_id]
    rfl
  · have none : q.sets = [] := by
      rcases sets : q.sets with _ | ⟨set, _ | ⟨other, rest⟩⟩
      · rfl
      · exact absurd sets (multiple set)
      · simp [sets] at few
    have nothing : parts q window s = [] := by
      simp [parts, Query.selections, none]
    have nothingMerged : Merge.merge q.orders [] = [] := by
      rw [Merge.merge, Merge.interleave_of_nothing rfl]
      rfl
    rw [nothing, List.map_nil, nothingMerged, List.map_nil]
  · exact Merge.merge_map (Query.keepsPlaces_project byKey s.distinctKeys_entities)
      fun l part => parts_subset part

/-- A window of a query that can be merged hands out the keys of the records that it shows. -/
theorem runOn_fetch_asKey {q : Query} (mergeable : q.Mergeable) (noCursor : q.cursor = none)
    {limit offset : UInt64} (positive : limit ≠ 0) (s : Store) :
    ((fetch (Store.client retries registry moment configuration) asKey limit offset).runOn
        (q, s)).1 = .ok ((shown q ⟨some limit, offset⟩ s).map (·.key)) := by
  have asItsKey : ∀ schema e, (asKey : Conversion Store Key) schema e = pure e.key :=
    fun _ _ => rfl
  rw [runOn_fetch_of_pure retries registry moment configuration asItsKey positive]
  by_cases single : ∃ set, q.sets = [set]
  · obtain ⟨set, oneSet⟩ := single
    obtain ⟨q', fetched⟩ := runOn_fetchEntities_single retries registry moment configuration oneSet
      ⟨some limit, offset⟩ s
    rw [fetched]
    simp [shown, oneSet, Except.map, Function.comp_def]
  · have several : ∀ set, q.sets ≠ [set] := fun set oneSet => single ⟨set, oneSet⟩
    have multiple : q.compile = .multiple (q.sets.map q.primitive) q.orders := by
      rcases q.compile_cases with ⟨set, oneSet, _⟩ | multiple
      · exact absurd oneSet (several set)
      · exact multiple
    obtain ⟨q', fetched⟩ := runOn_fetchEntities_multiple retries registry moment configuration
      multiple noCursor ⟨some limit, offset⟩ s
    have shownMerged : shown q ⟨some limit, offset⟩ s =
        Window.segment ⟨some limit, offset⟩
          (Merge.merge q.orders (parts q ⟨some limit, offset⟩ s)) := by
      unfold shown
      split
      · rename_i set oneSet
        exact absurd oneSet (several set)
      · rfl
    rw [fetched, merge_parts_project mergeable several, segment_map, shownMerged]
    simp [Except.map, Function.comp_def]

end Execution

/-! ## The calls that build a query -/

/-- A call that builds a query. -/
inductive BuildCall where
  | narrow (filter : FilterCall)
  | order (text : String)
  | under (ancestor : Key)
  | askKeysOnly

namespace BuildCall

/-- Makes the call on a query. -/
def apply (q : Query) : BuildCall → Except Failure Query
  | .narrow filter => filter.apply q
  | .order text => q.order text
  | .under ancestor => q.under ancestor
  | .askKeysOnly => q.askKeysOnly

/-- Whether the call asks for keys. -/
def asksKeysOnly : BuildCall → Bool
  | .askKeysOnly => true
  | _ => false

/-- Whether the call filters by a disjunction. -/
def isDisjunction : BuildCall → Bool
  | .narrow (.disjunction ..) => true
  | _ => false

end BuildCall

namespace Query

/-- A query for whole records, and the one that only differs in what it asks for. -/
structure Projects (q k : Query) : Prop where
  whole : q.keysOnly = false
  frame : k = { q with keysOnly := k.keysOnly }

theorem filterResolved_plain (q : Query) (property : String) {operator : Operator}
    {operand : Value} (primitive : operator.isPrimitive) (scalar : operand.list? = none) :
    q.filterResolved property operator operand = (do
      checkKeyOperands property [operand.widen]
      return q.conjoin ⟨property, operator, operand.widen⟩) := by
  unfold filterResolved
  split
  · contradiction
  · contradiction
  · contradiction
  · rfl

/-- A filter multiplies the sets, unless keys are asked for, or adds a clause to each of them. -/
theorem cases_of_filterResolved {q q' : Query} {property : String} {operator : Operator}
    {operand : Value} (accepted : q.filterResolved property operator operand = .ok q') :
    (q.keysOnly = false ∧ ∃ operators values, q.disjoin property operators values = .ok q') ∨
      (operator.isPrimitive ∧ operand.list? = none ∧
        q' = q.conjoin ⟨property, operator, operand.widen⟩) := by
  unfold filterResolved at accepted
  split at accepted
  · obtain ⟨wholeRecords, accepted⟩ := Failure.refuse_eq_ok_iff.mp accepted
    split at accepted
    · obtain ⟨_, _, disjoined⟩ := Failure.exists_of_bind_eq_ok accepted
      exact .inl ⟨Bool.eq_false_iff.mpr wholeRecords, _, _, disjoined⟩
    · exact absurd accepted Failure.throw_ne_ok
  · exact absurd accepted Failure.throw_ne_ok
  · obtain ⟨wholeRecords, accepted⟩ := Failure.refuse_eq_ok_iff.mp accepted
    obtain ⟨_, _, disjoined⟩ := Failure.exists_of_bind_eq_ok accepted
    exact .inl ⟨Bool.eq_false_iff.mpr wholeRecords, _, _, disjoined⟩
  · rename_i notIn notList notUnequal
    obtain ⟨_, _, conjoined⟩ := Failure.exists_of_bind_eq_ok accepted
    cases conjoined
    refine .inr ⟨?_, ?_, rfl⟩
    · cases operator <;> simp_all [Operator.isPrimitive]
    · cases operand <;> simp_all [Value.list?]

theorem isDisjunctive_of_disjoin {q q' : Query} {property : String} {operators : List Operator}
    {values : List Value} (disjoined : q.disjoin property operators values = .ok q') :
    q'.isDisjunctive := by
  simp only [disjoin, Failure.refuse_eq_ok_iff, Failure.pure_eq_ok_iff] at disjoined
  obtain ⟨_, _, rfl⟩ := disjoined
  rfl

/-! ### With and without asking for keys -/

theorem disjoin_projects {q k' : Query} (whole : q.keysOnly = false) {keysOnly : Bool}
    {property : String} {operators : List Operator} {values : List Value}
    (accepted : { q with keysOnly }.disjoin property operators values = .ok k') :
    ∃ q', q.disjoin property operators values = .ok q' ∧ Projects q' k' := by
  simp only [disjoin, Failure.refuse_eq_ok_iff, Failure.pure_eq_ok_iff] at accepted ⊢
  obtain ⟨primitive, fits, rfl⟩ := accepted
  exact ⟨_, ⟨primitive, fits, rfl⟩, whole, rfl⟩

theorem filterResolved_projects {q k' : Query} (whole : q.keysOnly = false) {keysOnly : Bool}
    {property : String} {operator : Operator} {operand : Value}
    (accepted : { q with keysOnly }.filterResolved property operator operand = .ok k') :
    ∃ q', q.filterResolved property operator operand = .ok q' ∧ Projects q' k' := by
  by_cases asksKeys : keysOnly
  · rcases cases_of_filterResolved accepted with ⟨noKeys, _⟩ | ⟨primitive, scalar, rfl⟩
    · exact absurd noKeys (Bool.not_eq_false _ ▸ asksKeys)
    · rw [filterResolved_plain _ _ primitive scalar] at accepted ⊢
      obtain ⟨_, checked, _⟩ := Failure.exists_of_bind_eq_ok accepted
      refine ⟨q.conjoin ⟨property, operator, operand.widen⟩, ?_, whole, rfl⟩
      rw [checked]
      rfl
  · have same : { q with keysOnly } = q := by
      rw [Bool.eq_false_iff.mpr asksKeys, ← whole]
    rw [same] at accepted
    have stillWhole : k'.keysOnly = false := by
      rw [(narrows_filterResolved accepted).frame]
      exact whole
    exact ⟨k', accepted, stillWhole, rfl⟩

theorem order_projects {q k' : Query} (whole : q.keysOnly = false) {keysOnly : Bool}
    {text : String} (accepted : { q with keysOnly }.order text = .ok k') :
    ∃ q', q.order text = .ok q' ∧ Projects q' k' := by
  simp only [order, Failure.guard_eq_ok_iff, Failure.bind_eq_ok_iff, Failure.pure_eq_ok_iff]
    at accepted ⊢
  obtain ⟨allowed, property, resolved, rfl⟩ := accepted
  exact ⟨_, ⟨allowed, property, resolved, rfl⟩, whole, rfl⟩

theorem under_projects {q k' : Query} (whole : q.keysOnly = false) {keysOnly : Bool}
    {ancestor : Key} (accepted : { q with keysOnly }.under ancestor = .ok k') :
    ∃ q', q.under ancestor = .ok q' ∧ Projects q' k' := by
  simp only [under, Failure.require_eq_ok_iff, Failure.pure_eq_ok_iff] at accepted ⊢
  obtain ⟨complete, rfl⟩ := accepted
  exact ⟨_, ⟨complete, rfl⟩, whole, rfl⟩

end Query

namespace BuildCall

open Query (Projects)

/-- A call that a query for keys accepts does the same to the query for whole records. -/
theorem projects_apply {q k k' : Query} (projects : Projects q k) {call : BuildCall}
    (other : call.asksKeysOnly = false) (accepted : call.apply k = .ok k') :
    ∃ q', call.apply q = .ok q' ∧ Projects q' k' := by
  obtain ⟨whole, frame⟩ := projects
  rw [frame] at accepted
  cases call with
  | narrow filter =>
      cases filter with
      | filter text operand =>
          obtain ⟨⟨name, operator⟩, parsed, accepted⟩ := Failure.exists_of_bind_eq_ok accepted
          obtain ⟨property, resolved, added⟩ := Failure.exists_of_bind_eq_ok accepted
          obtain ⟨q', addedToWhole, projects⟩ := Query.filterResolved_projects whole added
          refine ⟨q', ?_, projects⟩
          simp only [apply, FilterCall.apply, Query.filter, Failure.bind_eq_ok_iff]
          exact ⟨_, parsed, property, resolved, addedToWhole⟩
      | disjunction name operators values =>
          obtain ⟨property, resolved, accepted⟩ := Failure.exists_of_bind_eq_ok accepted
          obtain ⟨_, checked, disjoined⟩ := Failure.exists_of_bind_eq_ok accepted
          obtain ⟨q', disjoinedWhole, projects⟩ := Query.disjoin_projects whole disjoined
          refine ⟨q', ?_, projects⟩
          simp only [apply, FilterCall.apply, Query.filterDisjunction, Failure.bind_eq_ok_iff]
          exact ⟨property, resolved, _, checked, disjoinedWhole⟩
  | order text => exact Query.order_projects whole accepted
  | under ancestor => exact Query.under_projects whole accepted
  | askKeysOnly => contradiction

theorem projects_askKeysOnly {q k k' : Query} (projects : Projects q k)
    (asked : k.askKeysOnly = .ok k') : Projects q k' := by
  simp only [Query.askKeysOnly, Failure.refuse_eq_ok_iff, Failure.pure_eq_ok_iff] at asked
  obtain ⟨_, rfl⟩ := asked
  exact ⟨projects.whole, by rw [projects.frame]⟩

/-- What a chain of calls builds with the requests for keys, it builds without them, but for what
is asked for. -/
theorem projects_foldlM {q k k' : Query} (projects : Projects q k) {calls : List BuildCall}
    (accepted : calls.foldlM apply k = .ok k') :
    ∃ q', (calls.filter (!·.asksKeysOnly)).foldlM apply q = .ok q' ∧ Projects q' k' := by
  induction calls generalizing q k with
  | nil =>
      cases accepted
      exact ⟨q, rfl, projects⟩
  | cons call calls ih =>
      rw [List.foldlM_cons] at accepted
      obtain ⟨next, first, rest⟩ := Failure.exists_of_bind_eq_ok accepted
      by_cases asks : call.asksKeysOnly
      · have isAsk : call = .askKeysOnly := by
          cases call <;> first | rfl | contradiction
        subst isAsk
        exact ih (projects_askKeysOnly projects first) rest
      · obtain ⟨nextWhole, firstWhole, projects⟩ :=
          projects_apply projects (Bool.eq_false_iff.mpr asks) first
        obtain ⟨q', restWhole, projects⟩ := ih projects rest
        refine ⟨q', ?_, projects⟩
        rw [List.filter_cons_of_pos (by simpa using asks), List.foldlM_cons, firstWhole]
        exact restWhole

/-! ### Only a disjunction multiplies the sets of a query for keys -/

end BuildCall

namespace Query

/-- What holds of a query as long as no disjunction is added: it has one set until its sets are
multiplied, and then it does not ask for keys. -/
structure Guarded (q : Query) : Prop where
  single : q.isDisjunctive = false → ∃ set, q.sets = [set]
  refuses : q.keysOnly → q.isDisjunctive = false

theorem Guarded.mergeable {q : Query} (guarded : q.Guarded) : q.Mergeable := by
  by_cases asksKeys : q.keysOnly
  · obtain ⟨set, oneSet⟩ := guarded.single (guarded.refuses asksKeys)
    right
    left
    exact Nat.le_of_eq (congrArg List.length oneSet)
  · exact .inl (Bool.eq_false_iff.mpr asksKeys)

theorem Guarded.filterResolved {q q' : Query} (guarded : q.Guarded) {property : String}
    {operator : Operator} {operand : Value}
    (accepted : q.filterResolved property operator operand = .ok q') : q'.Guarded := by
  rcases cases_of_filterResolved accepted with ⟨noKeys, operators, values, disjoined⟩ | ⟨_, _, rfl⟩
  · have multiplied := isDisjunctive_of_disjoin disjoined
    have stillNoKeys : q'.keysOnly = false := by
      rw [(narrows_filterResolved accepted).frame]
      exact noKeys
    constructor
    · intro notMultiplied
      simp [multiplied] at notMultiplied
    · intro asksKeys
      simp [stillNoKeys] at asksKeys
  · constructor
    · intro notMultiplied
      obtain ⟨set, oneSet⟩ := guarded.single notMultiplied
      exact ⟨set ++ [⟨property, operator, operand.widen⟩], by rw [conjoin, oneSet]; rfl⟩
    · exact guarded.refuses

theorem Guarded.apply {q q' : Query} (guarded : q.Guarded) {call : BuildCall}
    (other : call.isDisjunction = false) (accepted : call.apply q = .ok q') : q'.Guarded := by
  cases call with
  | narrow filter =>
      cases filter with
      | filter text operand =>
          obtain ⟨_, _, accepted⟩ := Failure.exists_of_bind_eq_ok accepted
          obtain ⟨_, _, added⟩ := Failure.exists_of_bind_eq_ok accepted
          exact guarded.filterResolved added
      | disjunction name operators values => contradiction
  | order text =>
      obtain ⟨o, _, rfl⟩ := Request.exists_of_order accepted
      exact ⟨guarded.single, guarded.refuses⟩
  | under ancestor =>
      rw [Request.eq_of_under accepted]
      exact ⟨guarded.single, guarded.refuses⟩
  | askKeysOnly =>
      obtain ⟨notMultiplied, asked⟩ := Failure.refuse_eq_ok_iff.mp accepted
      cases asked
      exact ⟨guarded.single, fun _ => Bool.eq_false_iff.mpr notMultiplied⟩

theorem cursor_of_apply {q q' : Query} {call : BuildCall} (accepted : call.apply q = .ok q') :
    q'.cursor = q.cursor := by
  cases call with
  | narrow filter => rw [(FilterCall.narrows_apply accepted).frame]
  | order text =>
      obtain ⟨o, _, rfl⟩ := Request.exists_of_order accepted
      rfl
  | under ancestor => rw [Request.eq_of_under accepted]
  | askKeysOnly =>
      obtain ⟨_, asked⟩ := Failure.refuse_eq_ok_iff.mp accepted
      cases asked
      rfl

end Query

namespace BuildCall

variable {schema : Option Schema} {maxSets : Nat} {recordsCursor : Bool} {calls : List BuildCall}

/-- Makes some calls on a query that has no conditions yet. -/
def build (calls : List BuildCall) (schema : Option Schema) (maxSets : Nat)
    (recordsCursor : Bool) : Except Failure Query :=
  calls.foldlM apply { schema, maxSets, recordsCursor }

/-- The calls but for those that ask for keys. -/
def withoutAsking (calls : List BuildCall) : List BuildCall :=
  calls.filter (!·.asksKeysOnly)

/-- A query for keys is a projection: the calls that build it also build the query for whole
records, and as long as no disjunction is among them, or one set comes of it, or the results are
sorted by their keys before anything else, every window shows the same keys in the same order. -/
theorem fetch_projects (retries : Nat) (registry : Registry) (moment : Action Store Moment)
    (configuration : Configuration) {k q : Query}
    (forKeys : build calls schema maxSets recordsCursor = .ok k)
    (forRecords : build (withoutAsking calls) schema maxSets recordsCursor = .ok q)
    (condition : (∀ call ∈ calls, call.isDisjunction = false) ∨ q.sets.length ≤ 1 ∨ q.OrdersByKey)
    (s : Store) (limit offset : UInt64) :
    ∃ keys,
      ((Execution.fetch (Store.client retries registry moment configuration) Execution.asKey limit
        offset).runOn (k, s)).1 = .ok keys ∧
      ((Execution.fetch (Store.client retries registry moment configuration) Execution.asKey limit
        offset).runOn (q, s)).1 = .ok keys := by
  have fresh : Query.Projects { schema, maxSets, recordsCursor }
      { schema, maxSets, recordsCursor } := ⟨rfl, rfl⟩
  obtain ⟨q', built, projects⟩ := projects_foldlM fresh forKeys
  cases forRecords.symm.trans built
  have noCursor : k.cursor = none :=
    Failure.invariant_of_foldlM (P := fun q => q.cursor = none)
      (fun call _ {q q'} before accepted => (Query.cursor_of_apply accepted).trans before) rfl
      forKeys
  have mergeable : k.Mergeable := by
    rcases condition with noDisjunction | few | byKey
    · have start : Query.Guarded { schema, maxSets, recordsCursor } :=
        ⟨fun _ => ⟨[], rfl⟩, fun _ => rfl⟩
      exact (Failure.invariant_of_foldlM
        (fun call member {q q'} guarded accepted =>
          Query.Guarded.apply guarded (noDisjunction call member) accepted) start forKeys).mergeable
    · right
      left
      rw [projects.frame]
      exact few
    · right
      right
      rw [projects.frame]
      exact byKey
  by_cases nothing : limit = 0
  · subst nothing
    exact ⟨[], rfl, rfl⟩
  · have sameCursor : q.cursor = none := by
      rw [← noCursor, projects.frame]
    have sameShown : Execution.shown q ⟨some limit, offset⟩ s =
        Execution.shown k ⟨some limit, offset⟩ s := by
      rw [projects.frame]
      rfl
    refine ⟨_, Execution.runOn_fetch_asKey retries registry moment configuration mergeable noCursor
      nothing s, ?_⟩
    rw [Execution.runOn_fetch_asKey retries registry moment configuration (.inl projects.whole)
      sameCursor nothing s, sameShown]

/-- A kind of stories with a rank. -/
def stories : Definition where
  kind := "Story"
  declared := [("rank", { kind := .integer })]

/-- The key of a story. -/
def story (id : Int64) : Key :=
  ⟨[⟨"Story", some (.number id)⟩]⟩

/-- A store with a story of rank nine and a later one of rank one. -/
def twoStories : Store :=
  (({} : Store).write (story 1) (some {
    key := story 1
    fields := .ofList [("rank", Value.integer 9)] })).write (story 2) (some {
    key := story 2
    fields := .ofList [("rank", Value.integer 1)] })

/-- Asks for the keys of the ranked stories, the highest rank first. -/
def highestFirst : List BuildCall :=
  [.narrow (.filter "rank >" (.integer 0)), .askKeysOnly, .order "-rank"]

theorem fetch_projects_highestFirst :
    ∃ schema k q keys, stories.assemble = .ok schema ∧
      build highestFirst (some schema) 30 true = .ok k ∧
      build (withoutAsking highestFirst) (some schema) 30 true = .ok q ∧
      (∀ call ∈ highestFirst, call.isDisjunction = false) ∧
      ((Execution.fetch Store.plainClient Execution.asKey 10 0).runOn (k, twoStories)).1 =
        .ok keys ∧
      ((Execution.fetch Store.plainClient Execution.asKey 10 0).runOn (q, twoStories)).1 =
        .ok keys := by
  have noDisjunction : ∀ call ∈ highestFirst, call.isDisjunction = false := by decide
  obtain ⟨schema, k, q, defined, forKeys, forRecords⟩ :
      ∃ schema k q, stories.assemble = .ok schema ∧
        build highestFirst (some schema) 30 true = .ok k ∧
        build (withoutAsking highestFirst) (some schema) 30 true = .ok q :=
    ⟨_, _, _, rfl, rfl, rfl⟩
  obtain ⟨keys, shownKeys, sameKeys⟩ :=
    fetch_projects 3 {} _ {} forKeys forRecords (.inl noDisjunction) twoStories 10 0
  exact ⟨schema, k, q, keys, defined, forKeys, forRecords, noDisjunction, shownKeys, sameKeys⟩

/-- Asks for the keys of the stories of a rank other than five, the lowest rank first. -/
def unlikeFive : List BuildCall :=
  [.askKeysOnly, .narrow (.disjunction "rank" [.lessThan, .greaterThan] [.integer 5]),
    .order "rank"]

/-- Without their ranks the stories are merged in the order of their keys. -/
theorem fetch_unlikeFive :
    ∃ schema k q, stories.assemble = .ok schema ∧
      build unlikeFive (some schema) 30 true = .ok k ∧
      build (withoutAsking unlikeFive) (some schema) 30 true = .ok q ∧
      ((Execution.fetch Store.plainClient Execution.asKey 10 0).runOn (k, twoStories)).1.toOption =
        some [story 1, story 2] ∧
      ((Execution.fetch Store.plainClient Execution.asKey 10 0).runOn (q, twoStories)).1.toOption =
        some [story 2, story 1] := by
  refine ⟨_, _, _, rfl, rfl, rfl, ?_, ?_⟩
  · decide +kernel
  · decide +kernel

end BuildCall

end EntityStore
