import EntityStore.Proofs.Query.Execution

/-!
# Fanning queries out

A store evaluates neither inequality nor membership, so building a query multiplies its sets
instead.  Here a request keeps its filters as they were asked for, and a record is compared with
every operand directly.  The sets of a query are a disjunction of conjunctions, and each filter
narrows what passes them by exactly its own meaning.  So running the query that a request builds
lists the records that the request wants.
-/

namespace EntityStore

mutual

/-- The values that a stored value offers to an operator: a list offers those of its items. -/
def Value.scalars : Value → List Value
  | .list items => Value.scalarsOfAll items
  | v => [v]

/-- The scalars of all items, in their order. -/
def Value.scalarsOfAll : List Value → List Value
  | [] => []
  | item :: rest => item.scalars ++ Value.scalarsOfAll rest

end

namespace Operator

/-- A stored value satisfies an operator when one of the values that it offers does. -/
theorem holds_eq_any_scalars (op : Operator) (stored operand : Value) :
    op.holds stored operand = stored.scalars.any (op.holdsForOne · operand) := by
  apply holds.induct
    (fun stored operand => op.holds stored operand = stored.scalars.any (op.holdsForOne · operand))
    (fun items operand =>
      op.holdsForSome items operand = (Value.scalarsOfAll items).any (op.holdsForOne · operand))
  case case1 =>
    intro items operand ih
    simpa only [holds, Value.scalars] using ih
  case case2 =>
    intro stored operand scalar
    rw [holds, Value.scalars]
    · simp
    · exact scalar
    · exact scalar
  case case3 =>
    intro operand
    rfl
  case case4 =>
    intro item rest operand ihItem ihRest
    rw [holdsForSome, Value.scalarsOfAll, List.any_append, ihItem, ihRest]

theorem holdsForOne_notEqual (stored operand : Value) :
    holdsForOne .notEqual stored operand =
      (holdsForOne .lessThan stored operand || holdsForOne .greaterThan stored operand) := by
  simp only [holdsForOne, compares, accepts]
  cases stored.order operand <;> simp

/-- Some offered value differs from the operand exactly when some lies below or above it. -/
theorem holds_notEqual (stored operand : Value) :
    holds .notEqual stored operand =
      (holds .lessThan stored operand || holds .greaterThan stored operand) := by
  simp only [holds_eq_any_scalars, holdsForOne_notEqual]
  rw [Bool.eq_iff_iff]
  simp only [List.any_eq_true, Bool.or_eq_true]
  grind

/-- Being among some choices is being equal to one of them. -/
theorem holds_isIn (stored : Value) (choices : List Value) :
    holds .isIn stored (.list choices) = choices.any (holds .equal stored) := by
  rw [Bool.eq_iff_iff]
  simp only [holds_eq_any_scalars, holdsForOne, List.any_eq_true]
  grind

/-- The form in which an operand is compared: the choices of a membership are widened one by
one. -/
def normalize : Operator → Value → Value
  | .isIn, .list choices => .list (choices.map Value.widen)
  | _, operand => operand.widen

end Operator

/-- Comparing for inequality is comparing below or above. -/
theorem Clause.accepts_notEqual (property : String) (operand : Value) (e : Entity) :
    Clause.accepts ⟨property, .notEqual, operand⟩ e =
      [Operator.lessThan, .greaterThan].any fun op => Clause.accepts ⟨property, op, operand⟩ e := by
  cases stored : e.indexedValue property <;>
    simp [Clause.accepts, stored, Operator.holds_notEqual]

/-- Comparing for membership is comparing for equality with each choice. -/
theorem Clause.accepts_isIn (property : String) (choices : List Value) (e : Entity) :
    Clause.accepts ⟨property, .isIn, .list choices⟩ e =
      choices.any fun choice => Clause.accepts ⟨property, .equal, choice⟩ e := by
  cases stored : e.indexedValue property <;>
    simp [Clause.accepts, stored, Operator.holds_isIn]

namespace Query

/-- Whether a record passes the filters: all clauses of one set accept it. -/
def passes (q : Query) (e : Entity) : Bool :=
  q.sets.any fun set => set.all (·.accepts e)

/-- A query that differs from another in its sets only, and lets exactly those records pass that
passed before and pass a test. -/
structure Narrows (q q' : Query) (test : Entity → Bool) : Prop where
  frame : q' = { q with sets := q'.sets, isDisjunctive := q'.isDisjunctive }
  passes_eq : ∀ e, q'.passes e = (q.passes e && test e)

namespace Narrows

variable {q q' q'' : Query} {test test' : Entity → Bool}

theorem refl (q : Query) : Narrows q q fun _ => true where
  frame := rfl
  passes_eq e := by simp

theorem trans (first : Narrows q q' test) (second : Narrows q' q'' test') :
    Narrows q q'' fun e => test e && test' e where
  frame := by
    rw [second.frame, first.frame]
  passes_eq e := by
    rw [second.passes_eq, first.passes_eq, Bool.and_assoc]

theorem congr (narrows : Narrows q q' test) (same : ∀ e, test e = test' e) :
    Narrows q q' test' where
  frame := narrows.frame
  passes_eq e := by rw [narrows.passes_eq, same]

theorem schema_eq (narrows : Narrows q q' test) : q'.schema = q.schema := by
  rw [narrows.frame]

end Narrows

/-- A clause that is added to every set narrows a query by itself. -/
theorem narrows_conjoin (q : Query) (clause : Clause) :
    Narrows q (q.conjoin clause) clause.accepts where
  frame := rfl
  passes_eq e := by
    rw [Bool.eq_iff_iff]
    simp only [passes, conjoin, List.any_map, Function.comp_def, List.all_append, List.all_cons,
      List.all_nil, Bool.and_true, List.any_eq_true, Bool.and_eq_true]
    constructor
    · rintro ⟨set, ofQuery, accepted, added⟩
      exact ⟨⟨set, ofQuery, accepted⟩, added⟩
    · rintro ⟨⟨set, ofQuery, accepted⟩, added⟩
      exact ⟨set, ofQuery, accepted, added⟩

/-- Multiplying the sets narrows a query by the disjunction of all comparisons. -/
theorem narrows_disjoin {q q' : Query} {property : String} {operators : List Operator}
    {values : List Value} (disjoined : q.disjoin property operators values = .ok q') :
    Narrows q q' fun e =>
      operators.any fun op => values.any fun v => Clause.accepts ⟨property, op, v⟩ e := by
  simp only [disjoin] at disjoined
  split at disjoined
  · contradiction
  · split at disjoined
    · contradiction
    · cases disjoined
      refine ⟨rfl, fun e => ?_⟩
      rw [Bool.eq_iff_iff]
      simp only [passes, multiplySets, List.any_flatMap, List.any_map, Function.comp_def,
        List.all_append, List.all_cons, List.all_nil, Bool.and_true, List.any_eq_true,
        Bool.and_eq_true]
      constructor
      · rintro ⟨op, opMem, set, ofQuery, v, vMem, accepted, added⟩
        exact ⟨⟨set, ofQuery, accepted⟩, op, opMem, v, vMem, added⟩
      · rintro ⟨⟨set, ofQuery, accepted⟩, op, opMem, v, vMem, added⟩
        exact ⟨op, opMem, set, ofQuery, v, vMem, accepted, added⟩

/-- Adding a filter on a resolved property narrows a query by the comparison that was asked
for. -/
theorem narrows_filterResolved {q q' : Query} {property : String} {operator : Operator}
    {operand : Value} (added : q.filterResolved property operator operand = .ok q') :
    Narrows q q' (Clause.accepts ⟨property, operator, operator.normalize operand⟩) := by
  simp only [filterResolved] at added
  split at added
  · split at added
    · contradiction
    · split at added
      · obtain ⟨_, _, disjoined⟩ := Failure.exists_of_bind_eq_ok added
        apply (narrows_disjoin disjoined).congr
        intro e
        simp [Operator.normalize, Clause.accepts_isIn]
      · contradiction
  · contradiction
  · split at added
    · contradiction
    · obtain ⟨_, _, disjoined⟩ := Failure.exists_of_bind_eq_ok added
      apply (narrows_disjoin disjoined).congr
      intro e
      simp [Operator.normalize, Clause.accepts_notEqual]
  · rename_i notIsIn _ _
    obtain ⟨_, _, conjoined⟩ := Failure.exists_of_bind_eq_ok added
    cases conjoined
    apply (narrows_conjoin q _).congr
    intro e
    rw [Operator.normalize]
    intro choices isIn
    exact absurd isIn notIsIn

end Query

/-- How names are resolved depends on the schema only. -/
theorem Query.resolveProperty_schema (q : Query) (name : String) :
    ({ schema := q.schema } : Query).resolveProperty name = q.resolveProperty name :=
  rfl

/-- A filter as callers ask for it. -/
inductive FilterCall where
  | filter (text : String) (operand : Value)
  | disjunction (name : String) (operators : List Operator) (values : List Value)

namespace FilterCall

/-- Adds the filter to a query. -/
def apply (q : Query) : FilterCall → Except Failure Query
  | .filter text operand => q.filter text operand
  | .disjunction name operators values => q.filterDisjunction name operators values

/-- The comparisons of which a record must pass one, with every operator as it was asked for. -/
def alternatives (schema : Option Schema) : FilterCall → Except Failure (List Clause)
  | .filter text operand => do
    let (name, operator) ← FilterText.parse text
    let property ← ({ schema } : Query).resolveProperty name
    return [⟨property, operator, operator.normalize operand⟩]
  | .disjunction name operators values => do
    let property ← ({ schema } : Query).resolveProperty name
    return operators.flatMap fun op => values.map fun v => ⟨property, op, v.widen⟩

/-- Whether a record satisfies the filter. -/
def holds (schema : Option Schema) (call : FilterCall) (e : Entity) : Bool :=
  match call.alternatives schema with
  | .ok clauses => clauses.any (·.accepts e)
  | .error _ => false

theorem holds_of_alternatives {schema : Option Schema} {call : FilterCall} {clauses : List Clause}
    (meaning : call.alternatives schema = .ok clauses) (e : Entity) :
    call.holds schema e = clauses.any (·.accepts e) := by
  rw [holds, meaning]

/-- A filter call narrows a query by its own meaning. -/
theorem narrows_apply {q q' : Query} {call : FilterCall} (applied : apply q call = .ok q') :
    Query.Narrows q q' (call.holds q.schema) := by
  cases call with
  | filter text operand =>
      obtain ⟨⟨name, operator⟩, parsed, applied⟩ := Failure.exists_of_bind_eq_ok applied
      obtain ⟨property, resolved, added⟩ := Failure.exists_of_bind_eq_ok applied
      have meaning : (filter text operand).alternatives q.schema =
          .ok [⟨property, operator, operator.normalize operand⟩] := by
        simp only [alternatives, parsed, Query.resolveProperty_schema]
        change (q.resolveProperty name >>= fun property => pure _) = _
        rw [resolved]
        rfl
      apply (Query.narrows_filterResolved added).congr
      intro e
      simp [holds_of_alternatives meaning]
  | disjunction name operators values =>
      obtain ⟨property, resolved, applied⟩ := Failure.exists_of_bind_eq_ok applied
      obtain ⟨_, _, disjoined⟩ := Failure.exists_of_bind_eq_ok applied
      have meaning : (disjunction name operators values).alternatives q.schema =
          .ok (operators.flatMap fun op => values.map fun v => ⟨property, op, v.widen⟩) := by
        simp only [alternatives, Query.resolveProperty_schema, resolved]
        rfl
      apply (Query.narrows_disjoin disjoined).congr
      intro e
      simp [holds_of_alternatives meaning, List.any_flatMap, Function.comp_def]

/-- A chain of filter calls narrows a query by their conjunction. -/
theorem narrows_foldlM {q q' : Query} {calls : List FilterCall}
    (applied : calls.foldlM apply q = .ok q') :
    Query.Narrows q q' fun e => calls.all (·.holds q.schema e) := by
  induction calls generalizing q with
  | nil =>
      cases applied
      exact Query.Narrows.refl _
  | cons call calls ih =>
      rw [List.foldlM_cons] at applied
      obtain ⟨next, first, rest⟩ := Failure.exists_of_bind_eq_ok applied
      have narrowed := narrows_apply first
      apply (narrowed.trans (ih rest)).congr
      intro e
      rw [narrowed.schema_eq, List.all_cons]

end FilterCall

/-- A query as callers ask for it. -/
structure Request where
  schema : Option Schema
  filters : List FilterCall := []
  orders : List String := []
  ancestor : Option Key := none

namespace Request

/-- The order that a text asks for. -/
def sortOrder (schema : Option Schema) (text : String) : Except Failure SortOrder := do
  let (name, direction) := Query.parseOrder text
  let property ← ({ schema } : Query).resolveProperty name
  return ⟨property, direction⟩

/-- The orders that the request asks for. -/
def sortOrders (r : Request) : Except Failure (List SortOrder) :=
  r.orders.mapM (sortOrder r.schema)

/-- Whether a record is asked for, given the orders. -/
def wants (r : Request) (orders : List SortOrder) (e : Entity) : Bool :=
  r.schema.all (·.kind = e.kind) && r.ancestor.all (·.isAncestorOf e.key) &&
    r.filters.all (·.holds r.schema e) && orders.all fun o => (e.indexedValue o.property).isSome

/-- The query that the request begins with, over all instances of the schema or of all kinds. -/
def start (r : Request) (maxSets : Nat) (recordsCursor : Bool) : Query :=
  { schema := r.schema, maxSets, recordsCursor }

/-- Builds the query: first the filters, then the orders, and the ancestor last. -/
def build (r : Request) (maxSets : Nat) (recordsCursor : Bool) : Except Failure Query := do
  let q ← r.filters.foldlM FilterCall.apply (r.start maxSets recordsCursor)
  let q ← r.orders.foldlM Query.order q
  match r.ancestor with
  | some ancestor => q.under ancestor
  | none => return q

theorem exists_of_order {q q' : Query} {text : String} (ordered : q.order text = .ok q') :
    ∃ o, sortOrder q.schema text = .ok o ∧ q' = { q with orders := q.orders ++ [o] } := by
  simp only [Query.order] at ordered
  split at ordered
  · contradiction
  · obtain ⟨property, resolved, ordered⟩ := Failure.exists_of_bind_eq_ok ordered
    cases ordered
    refine ⟨⟨property, (Query.parseOrder text).2⟩, ?_, rfl⟩
    simp only [sortOrder, Query.resolveProperty_schema, resolved]
    rfl

theorem exists_of_foldlM_order {q q' : Query} {texts : List String}
    (ordered : texts.foldlM Query.order q = .ok q') :
    ∃ orders, texts.mapM (sortOrder q.schema) = .ok orders ∧
      q' = { q with orders := q.orders ++ orders } := by
  induction texts generalizing q with
  | nil =>
      cases ordered
      exact ⟨[], rfl, by simp⟩
  | cons text texts ih =>
      rw [List.foldlM_cons] at ordered
      obtain ⟨next, first, rest⟩ := Failure.exists_of_bind_eq_ok ordered
      obtain ⟨o, asked, rfl⟩ := exists_of_order first
      obtain ⟨orders, askedRest, rfl⟩ := ih rest
      refine ⟨o :: orders, ?_, ?_⟩
      · rw [List.mapM_cons, asked, askedRest]
        rfl
      · simp

theorem eq_of_under {q q' : Query} {ancestor : Key} (restricted : q.under ancestor = .ok q') :
    q' = { q with ancestor := some ancestor } := by
  unfold Query.under at restricted
  split at restricted
  · cases restricted
    rfl
  · contradiction

variable {r : Request} {maxSets : Nat} {recordsCursor : Bool}

theorem exists_of_build {q : Query} (built : r.build maxSets recordsCursor = .ok q) :
    ∃ orders filtered, r.sortOrders = .ok orders ∧
      Query.Narrows (r.start maxSets recordsCursor) filtered
        (fun e => r.filters.all (·.holds r.schema e)) ∧
      q = { filtered with orders := orders, ancestor := r.ancestor } := by
  obtain ⟨filtered, chain, built⟩ := Failure.exists_of_bind_eq_ok built
  obtain ⟨ordered, texts, built⟩ := Failure.exists_of_bind_eq_ok built
  have narrowed := FilterCall.narrows_foldlM chain
  obtain ⟨orders, asked, rfl⟩ := exists_of_foldlM_order texts
  rw [narrowed.schema_eq] at asked
  refine ⟨orders, filtered, asked, narrowed, ?_⟩
  have unordered : filtered.orders = [] := by
    rw [narrowed.frame]
    rfl
  have unrestricted : filtered.ancestor = none := by
    rw [narrowed.frame]
    rfl
  split at built
  · rename_i ancestor restricts
    rw [eq_of_under built, unordered, restricts]
    rfl
  · rename_i everywhere
    cases built
    rw [unordered, everywhere, ← unrestricted]
    rfl

/-- The results of the built query are the stored records that the request wants. -/
theorem matches_iff_wants {orders : List SortOrder} {filtered : Query}
    (narrowed : Query.Narrows (r.start maxSets recordsCursor) filtered
      fun e => r.filters.all (·.holds r.schema e)) (s : Store) (e : Entity) :
    { filtered with orders := orders, ancestor := r.ancestor }.Matches s e ↔
      e ∈ s.entities ∧ r.wants orders e := by
  have passes : filtered.passes e = r.filters.all (·.holds r.schema e) := by
    rw [narrowed.passes_eq]
    rfl
  have schema : filtered.schema = r.schema := narrowed.schema_eq
  have noCursor : filtered.cursor = none := by
    rw [narrowed.frame]
    rfl
  simp only [Query.Matches, Query.primitive, PrimitiveQuery.accepts, PrimitiveQuery.reaches,
    Query.kind?, wants, ← passes, Query.passes, schema, noCursor, Option.all_map,
    Option.all_none, Bool.and_eq_true, List.any_eq_true, and_true]
  constructor
  · rintro ⟨stored, set, ofQuery, ⟨⟨kind, ancestor⟩, accepted⟩, ordered⟩
    exact ⟨stored, ⟨⟨kind, ancestor⟩, set, ofQuery, accepted⟩, ordered⟩
  · rintro ⟨stored, ⟨⟨kind, ancestor⟩, set, ofQuery, accepted⟩, ordered⟩
    exact ⟨stored, set, ofQuery, ⟨⟨kind, ancestor⟩, accepted⟩, ordered⟩

/-- Running a query that was narrowed by the filters of a request lists what the request wants. -/
theorem run_lists_of_narrows (retries : Nat) (registry : Registry) (moment : Action Store Moment)
    (configuration : Configuration) {orders : List SortOrder} {filtered : Query}
    (narrowed : Query.Narrows (r.start maxSets recordsCursor) filtered
      fun e => r.filters.all (·.holds r.schema e)) (s : Store) :
    ∃ es q', (Execution.run (Store.client retries registry moment configuration)).runOn
        ({ filtered with orders := orders, ancestor := r.ancestor }, s) = (.ok es, (q', s)) ∧
      Listing orders (fun e => e ∈ s.entities ∧ r.wants orders e) es := by
  have wholeRecords : filtered.keysOnly = false := by
    rw [narrowed.frame]
    rfl
  have noCursor : filtered.cursor = none := by
    rw [narrowed.frame]
    rfl
  obtain ⟨q', ran⟩ := Execution.runOn_run retries registry moment configuration
    (q := { filtered with orders := orders, ancestor := r.ancestor }) wholeRecords (.inl noCursor) s
  exact ⟨_, q', ran, (Query.listing_results _ s).congr (matches_iff_wants narrowed s)⟩

/-- Running the query that a request builds lists the stored records that the request wants, in
the order that it asks for. -/
theorem run_lists_wanted (retries : Nat) (registry : Registry) (moment : Action Store Moment)
    (configuration : Configuration) {q : Query} (built : r.build maxSets recordsCursor = .ok q)
    (s : Store) :
    ∃ orders es q', r.sortOrders = .ok orders ∧ q.orders = orders ∧
      (Execution.run (Store.client retries registry moment configuration)).runOn (q, s) =
        (.ok es, (q', s)) ∧
      Listing orders (fun e => e ∈ s.entities ∧ r.wants orders e) es := by
  obtain ⟨orders, filtered, asked, narrowed, rfl⟩ := exists_of_build built
  obtain ⟨es, q', ran, listing⟩ :=
    run_lists_of_narrows retries registry moment configuration narrowed s
  exact ⟨orders, es, q', asked, rfl, ran, listing⟩

/-- The songs of a band that are ranked other than third, are pop or rock, and came out before or
after 1970, the best first. -/
def songs : Request where
  schema := some ⟨"Song", [], [], ∅, [], true, false⟩
  filters := [.filter "rank !=" (.integer 3),
    .filter "tag in" (.list [.string "pop", .string "rock"]),
    .disjunction "year" [.lessThan, .greaterThan] [.integer 1970]]
  orders := ["-rank"]
  ancestor := some ⟨[⟨"Band", some (.name "a")⟩]⟩

/-- A store with one song of the band. -/
def oneSong : Store :=
  ({} : Store).write ⟨[⟨"Band", some (.name "a")⟩, ⟨"Song", some (.number 1)⟩]⟩ (some {
    key := ⟨[]⟩
    fields := .ofList [("rank", Value.integer 2), ("tag", .string "pop"), ("year", .integer 1969)]
  })

theorem run_lists_songs :
    ∃ q, songs.build 30 true = .ok q ∧
      ∃ orders es q', songs.sortOrders = .ok orders ∧ q.orders = orders ∧
        (Execution.run Store.plainClient).runOn (q, oneSong) = (.ok es, (q', oneSong)) ∧
        Listing orders (fun e => e ∈ oneSong.entities ∧ songs.wants orders e) es := by
  obtain ⟨q, built⟩ : ∃ q, songs.build 30 true = .ok q := ⟨_, rfl⟩
  exact ⟨q, built, run_lists_wanted 3 {} _ {} built oneSong⟩

end Request

end EntityStore
