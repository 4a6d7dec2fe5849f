import EntityStore.Proofs.Store.Body

/-!
# What a transaction sees of its own writes

Inside a transaction a get finds what the transaction has written last, or what is stored where it
has written nothing.  A query finds what is stored, whatever has been written.  So the two show the
same record of a key exactly when the last write of the key has left it as it is stored.
-/

namespace EntityStore.Transaction

variable {options : CallOptions} {calls : List Call} {state : OnStore} {key : Key}

/-! ## One call after the other -/

/-- An open transaction after some calls, whatever they answered. -/
def after (options : CallOptions) : List Call → OnStore → OnStore
  | [], state => state
  | call :: later, state => after options later ((call.ask storage options).runOn state).2

/-- The writes of the calls, in their order. -/
def written (options : CallOptions) : List Call → OnStore → List Write
  | [], _ => []
  | call :: later, state =>
    call.writes state ++ written options later ((call.ask storage options).runOn state).2

theorem continues_after (options : CallOptions) (calls : List Call) (state : OnStore) :
    Continues state (after options calls state) := by
  induction calls generalizing state with
  | nil => exact chains_continues.refl state
  | cons call later inductionHypothesis =>
      exact chains_continues.trans (continues_ask call options state) (inductionHypothesis _)

theorem buffers_after (options : CallOptions) (calls : List Call) (state : OnStore) :
    Buffers (written options calls state) state (after options calls state) := by
  induction calls generalizing state with
  | nil => exact logs_buffers.refl state
  | cons call later inductionHypothesis =>
      exact logs_buffers.append (buffers_ask call options state) (inductionHypothesis _)

/-- A transaction sees what its last write of a key has left, and else what is stored. -/
theorem lookup_after (options : CallOptions) (calls : List Call) (s : Store) (key : Key) :
    (after options calls ({}, s)).1.lookup (after options calls ({}, s)).2 key =
      (Write.last (written options calls ({}, s)) key).getD s.records[key]? := by
  have untouched := (continues_after options calls ({}, s)).untouched
  have buffered := buffers_after options calls ({}, s) key
  rw [show ({} : Transaction).writes[key]? = none from Std.ExtTreeMap.getElem?_empty,
    Option.or_none] at buffered
  rw [lookup, buffered, untouched.records]
  cases Write.last (written options calls ({}, s)) key <;> rfl

/-! ## Reads in the group -/

/-- Whether a transaction works in the group of a key, or in no group yet. -/
def Admits (t : Transaction) (key : Key) : Prop :=
  ∀ group, t.group = some group → group = key.root

theorem Admits.enter (admits : state.1.Admits key) :
    ∃ t, (enterGroup key).runOn state = (.ok (), (t, state.2)) ∧ t.writes = state.1.writes := by
  rcases state with ⟨t, s⟩
  rcases runOn_enterGroup_cases key t s with ⟨_, entered⟩ | ⟨_, entered⟩ | ⟨group, refused⟩
  · exact ⟨_, entered, rfl⟩
  · exact ⟨_, entered, rfl⟩
  · rw [enterGroup, Action.runOn_bind, Action.runOn_read] at refused
    cases pinned : t.group with
    | none => simp [pinned] at refused
    | some other => simp [pinned, admits other pinned] at refused

theorem Admits.get (admits : state.1.Admits key) (options : CallOptions) :
    ((storage.get [key] options).runOn state).1 = .ok [state.1.lookup state.2 key] := by
  rcases admits.enter with ⟨t, entered, sameWrites⟩
  simp [storage, getOne, Action.runOn_bind, Except.map, entered,
    lookup_congr sameWrites]

theorem Admits.runQuery {q : PrimitiveQuery} (admits : state.1.Admits key)
    (restricted : q.ancestor = some key) (window : Window) (options : CallOptions) :
    ((storage.runQuery q window options).runOn state).1 = .ok (state.2.runQuery q window) := by
  rcases admits.enter with ⟨t, entered, -⟩
  simp [storage, enterQuery, restricted, Action.runOn_bind, entered]

/-- All records at or below a key. -/
def descendants (ancestor : Key) : PrimitiveQuery :=
  { ancestor := some ancestor }

theorem mem_runQuery_descendants {ancestor : Key} {s : Store} {e : Entity} :
    e ∈ (s.runQuery (descendants ancestor) {}).entities ↔
      s.records[e.key]? = some e ∧ ancestor.isAncestorOf e.key = true := by
  have project : (descendants ancestor).project = id := rfl
  rw [Store.runQuery, PrimitiveQuery.run_entities, Window.segment_unlimited, project, List.map_id,
    id_eq, PrimitiveQuery.mem_select, Store.mem_entities]
  simp [descendants, PrimitiveQuery.accepts, PrimitiveQuery.reaches]

/-! ## Gets and queries -/

/-- After any calls in one group, a get of a key and a query of the records below an ancestor of the
key are answered.  The get finds what the transaction has left there, and the query lists what is
stored there.  They show the same exactly when the last write of the key, if there is one, has left
it as it is stored. -/
theorem get_and_query (options : CallOptions) (calls : List Call) (s : Store) {ancestor key : Key}
    (nonempty : ancestor.path ≠ []) (below : ancestor.isAncestorOf key = true)
    (admits : (after options calls ({}, s)).1.Admits ancestor) :
    ∃ found results,
      ((storage.get [key] options).runOn (after options calls ({}, s))).1 = .ok [found] ∧
      ((storage.runQuery (descendants ancestor) {} options).runOn
        (after options calls ({}, s))).1 = .ok results ∧
      found = (Write.last (written options calls ({}, s)) key).getD s.records[key]? ∧
      (∀ e, e ∈ results.entities ∧ e.key = key ↔ s.records[key]? = some e) ∧
      ((∀ e, found = some e ↔ e ∈ results.entities ∧ e.key = key) ↔
        ∀ left, Write.last (written options calls ({}, s)) key = some left →
          left = s.records[key]?) := by
  have admitsKey : (after options calls ({}, s)).1.Admits key := by
    intro group pinned
    rw [admits group pinned, Key.root_eq_of_isAncestorOf nonempty below]
  have listed : ∀ e, e ∈ ((after options calls ({}, s)).2.runQuery (descendants ancestor)
      {}).entities ∧ e.key = key ↔ s.records[key]? = some e := by
    intro e
    rw [mem_runQuery_descendants, (continues_after options calls ({}, s)).untouched.records]
    constructor
    · rintro ⟨⟨stored, -⟩, rfl⟩
      exact stored
    · intro stored
      cases s.keyed key e stored
      exact ⟨⟨stored, below⟩, rfl⟩
  refine ⟨_, _, admitsKey.get options, admits.runQuery rfl {} options,
    lookup_after options calls s key, listed, ?_⟩
  simp only [listed, lookup_after]
  cases Write.last (written options calls ({}, s)) key with
  | none => simp
  | some left => simp [← Option.ext_iff]

/-- An account that is opened and closed again in one transaction. -/
def openedAndClosed : List Call :=
  [.put [{ key := account "a" }], .delete [account "a"]]

/-- Neither a get nor a query shows the account. -/
theorem get_and_query_openedAndClosed :
    ((account "a").path ≠ [] ∧ (account "a").isAncestorOf (account "a") = true ∧
      (after ⟨none, .strong⟩ openedAndClosed ({}, {})).1.Admits (account "a")) ∧
    ∃ found results,
      ((storage.get [account "a"] ⟨none, .strong⟩).runOn
        (after ⟨none, .strong⟩ openedAndClosed ({}, {}))).1 = .ok [found] ∧
      ((storage.runQuery (descendants (account "a")) {} ⟨none, .strong⟩).runOn
        (after ⟨none, .strong⟩ openedAndClosed ({}, {}))).1 = .ok results ∧
      ∀ e, found = some e ↔ e ∈ results.entities ∧ e.key = account "a" := by
  have nonempty : (account "a").path ≠ [] := by decide
  have below : (account "a").isAncestorOf (account "a") = true := by decide
  have admits : (after ⟨none, .strong⟩ openedAndClosed ({}, {})).1.Admits (account "a") := by
    rintro group pinned
    cases pinned
    rfl
  have leaves : Write.last (written ⟨none, .strong⟩ openedAndClosed ({}, {})) (account "a") =
      some none :=
    rfl
  rcases get_and_query ⟨none, .strong⟩ openedAndClosed {} nonempty below admits with
    ⟨found, results, gotten, listed, -, -, agrees⟩
  refine ⟨⟨nonempty, below, admits⟩, found, results, gotten, listed, agrees.mpr ?_⟩
  intro left last
  rw [leaves] at last
  cases last
  exact Std.ExtTreeMap.getElem?_empty.symm

/-- An account is opened in a transaction. -/
def opened : OnStore :=
  after ⟨none, .strong⟩ [.put [{ key := account "a" }]] ({}, {})

/-- An account that was there is closed in a transaction. -/
def closed : OnStore :=
  after ⟨none, .strong⟩ [.delete [account "a"]]
    ({}, Store.write {} (account "a") (some { key := account "a" }))

/-- A get shows the account that was opened, whereas a query shows the one that was closed. -/
theorem get_apart_from_query :
    (((storage.get [account "a"] ⟨none, .strong⟩).runOn opened).1 =
        .ok [some { key := account "a" }] ∧
      ∃ results, ((storage.runQuery (descendants (account "a")) {} ⟨none, .strong⟩).runOn
        opened).1 = .ok results ∧ results.entities = []) ∧
    (((storage.get [account "a"] ⟨none, .strong⟩).runOn closed).1 = .ok [none] ∧
      ∃ results, ((storage.runQuery (descendants (account "a")) {} ⟨none, .strong⟩).runOn
        closed).1 = .ok results ∧ { key := account "a" } ∈ results.entities) := by
  refine ⟨⟨rfl, _, rfl, ?_⟩, ⟨rfl, _, rfl, ?_⟩⟩
  · apply List.eq_nil_iff_forall_not_mem.mpr
    intro e listed
    have stored := (mem_runQuery_descendants.mp listed).1
    cases Std.ExtTreeMap.getElem?_empty.symm.trans stored
  · exact mem_runQuery_descendants.mpr ⟨rfl, by decide⟩

end EntityStore.Transaction
