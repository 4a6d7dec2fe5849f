import EntityStore.Proofs.Action
import EntityStore.Proofs.Query.Positions

/-!
# The trace of executions

A query remembers where its last execution ended, as far as it takes note of executions.  Seen from
the query, every call comes down to what the store had to do with it: the store was not asked, or
failed, or listed results and told where they end, or counted.  So after any calls, on any stores,
the token of a query is that of the last answer that it took note of.  Answers to a query that does
not record leave no trace, not even that there was a later execution.
-/

namespace EntityStore

namespace Query

/-- What a query remembers of its last execution. -/
def trace (q : Query) : Option Cursor × Bool :=
  (q.lastCursor, q.lastWasMultiple)

/-- A token is handed out for the place that is remembered, by a query that records places and does
not remember to have run several primitive queries. -/
theorem token_eq_ok_iff {q : Query} {t : String} :
    q.token = .ok t ↔ q.recordsCursor = true ∧
      ∃ cursor, q.trace = (some cursor, false) ∧ t = cursor.encode := by
  unfold token trace
  cases q.recordsCursor <;> cases q.lastWasMultiple <;> rcases q.lastCursor with _ | cursor <;>
    simp [throw, throwThe, MonadExceptOf.throw, pure, Except.pure, eq_comm]

theorem recordsCursor_recordExecution (q : Query) (cursor : Option Cursor) (multiple : Bool) :
    (q.recordExecution cursor multiple).recordsCursor = q.recordsCursor := by
  unfold recordExecution
  split <;> rfl

theorem recordExecution_of_records {q : Query} (records : q.recordsCursor = true)
    (cursor : Option Cursor) (multiple : Bool) :
    q.recordExecution cursor multiple =
      { q with lastCursor := cursor, lastWasMultiple := multiple } :=
  if_pos records

end Query

namespace Execution

/-- A call on a query. -/
inductive Call where
  | run
  | fetch (limit offset : UInt64)
  | first
  | nth (index : UInt64)
  | slice (lower upper : Bound)
  | count (limit : Option UInt64)
  | recording (records : Bool)

/-- What the store had to do with a call. -/
inductive Report where
  /-- It was not asked. -/
  | untouched
  /-- It failed. -/
  | unanswered
  /-- It answered one primitive query and told where the results end. -/
  | listed (cursor : Option Cursor)
  /-- It answered the primitive queries of all sets, to be merged. -/
  | merged
  /-- It counted. -/
  | counted
  /-- The call was none for the store: it told the query whether to record. -/
  | switched (records : Bool)

namespace Report

/-- Whether the store was asked. -/
def reached : Report → Bool
  | .untouched | .switched _ => false
  | .unanswered | .listed _ | .merged | .counted => true

/-- Whether the store answered with records. -/
def isListing : Report → Bool
  | .listed _ | .merged => true
  | .untouched | .unanswered | .counted | .switched _ => false

/-- The place where the results end, and whether they come from several primitive queries. -/
def trace : Report → Option Cursor × Bool
  | .listed cursor => (cursor, false)
  | .merged => (none, true)
  | .untouched | .unanswered | .counted | .switched _ => (none, false)

end Report

end Execution

/-- A query after a call that the store had this to do with. -/
def Query.note (q : Query) : Execution.Report → Query
  | .untouched | .unanswered => q
  | .listed cursor => q.recordExecution cursor false
  | .merged => q.recordExecution none true
  | .counted => q.forgetExecution
  | .switched records => q.recording records

/-- Forgetting forgets what has just been noted as well. -/
theorem Query.forgetExecution_note {q : Query} {report : Execution.Report}
    (listing : report.isListing = true) : (q.note report).forgetExecution = q.forgetExecution := by
  cases report <;> cases listing <;>
    simp only [note, recordExecution] <;>
    split <;> rfl

namespace Execution

variable {σ T α β : Type}

section

variable (c : Client σ T) (convert : Conversion σ α)

/-- What the store has to do with fetching a window. -/
def listing (q : Query) (s : σ) (window : Window) : Report :=
  match q.compile with
  | .single primitive =>
    match ((c.datastore.runQuery primitive window c.options).runOn s).1 with
    | .ok results => .listed results.cursor
    | .error _ => .unanswered
  | .multiple queries _ =>
    if q.cursor.isSome then .untouched
    else
      match ((fetchSets c queries (window.limit.map (saturatingSum · window.offset))).runOn
        (q, s)).1 with
      | .ok _ => .merged
      | .error _ => .unanswered

/-- What the store has to do with counting: the results of several primitive queries are listed to
be counted. -/
def counting (q : Query) (s : σ) (limit : Option UInt64) : Report :=
  match q.compile with
  | .single primitive =>
    match ((c.datastore.count primitive limit c.options).runOn s).1 with
    | .ok _ => .counted
    | .error _ => .unanswered
  | .multiple .. =>
    let report := listing c q s ⟨limit, 0⟩
    if report.isListing then .counted else report

namespace Call

/-- The window that a call fetches, if it fetches any. -/
def window? : Call → Option Window
  | .run => some {}
  | .fetch limit offset => if limit = 0 then none else some ⟨some limit, offset⟩
  | .first => some ⟨some 1, 0⟩
  | .nth index => some ⟨some 1, index⟩
  | .slice lower upper =>
    match upper.stop? with
    | none => none
    | some stop =>
      if stop ≤ lower.start then none else some ⟨some (stop - lower.start), lower.start⟩
  | .count _ | .recording _ => none

/-- The query after a call on it. -/
def after (q : Query) (s : σ) : Call → Query
  | .run => ((Execution.run c).runOn (q, s)).2.1
  | .fetch limit offset => ((Execution.fetch c convert limit offset).runOn (q, s)).2.1
  | .first => ((Execution.first c convert).runOn (q, s)).2.1
  | .nth index => ((Execution.nth c convert index).runOn (q, s)).2.1
  | .slice lower upper => ((Execution.slice c convert lower upper).runOn (q, s)).2.1
  | .count limit => ((Execution.count c limit).runOn (q, s)).2.1
  | .recording records => q.recording records

/-- What the store has to do with a call. -/
def report (q : Query) (s : σ) : Call → Report
  | .count limit => counting c q s limit
  | .recording records => .switched records
  | call =>
    match call.window? with
    | some window => listing c q s window
    | none => .untouched

end Call

end

/-! ## One call -/

theorem runOn_lift (x : Action σ α) (q : Query) (s : σ) :
    (lift x).runOn (q, s) = ((x.runOn s).1, (q, (x.runOn s).2)) :=
  rfl

/-- Whether the query of two states is the same. -/
def SameQuery (state state' : Query × σ) : Prop :=
  state'.1 = state.1

theorem chains_sameQuery : Chains (SameQuery (σ := σ)) where
  refl _ := rfl
  trans first second := second.trans first

theorem keeps_lift (x : Action σ α) : Action.Keeps SameQuery (lift x) := by
  intro state
  rfl

theorem keeps_fetchSets (c : Client σ T) (queries : List PrimitiveQuery) (limit : Option UInt64) :
    Action.Keeps SameQuery (fetchSets c queries limit) := by
  apply Action.keeps_mapM chains_sameQuery
  intro primitive
  exact Action.keeps_bind chains_sameQuery (keeps_lift _) fun results =>
    Action.keeps_pure chains_sameQuery results.entities

/-- What only reads the query does not change what came before. -/
theorem query_of_bind {x : Execution σ α} {f : α → Execution σ β}
    (keeps : ∀ a, Action.Keeps SameQuery (f a)) (state : Query × σ) :
    ((x >>= f).runOn state).2.1 = (x.runOn state).2.1 := by
  rw [Action.runOn_bind]
  rcases x.runOn state with ⟨_ | a, state'⟩
  · rfl
  · exact keeps a state'

/-- Fetching a window answers exactly when the store does, and the query takes note. -/
theorem fetchEntities_notes (c : Client σ T) (window : Window) (q : Query) (s : σ) :
    ((fetchEntities c window).runOn (q, s)).2.1 = q.note (listing c q s window) ∧
      ((fetchEntities c window).runOn (q, s)).1.isOk = (listing c q s window).isListing := by
  simp only [fetchEntities, Action.runOn_bind, runOn_query, listing]
  cases q.compile with
  | single primitive =>
      simp only [Action.runOn_bind, runOn_lift]
      rcases ((c.datastore.runQuery primitive window c.options).runOn s).1 with _ | results <;>
        exact ⟨rfl, rfl⟩
  | multiple queries orders =>
      by_cases resumes : q.cursor.isSome
      · simp only [resumes, if_true]
        exact ⟨rfl, rfl⟩
      · simp only [resumes, Action.runOn_bind, Bool.false_eq_true, if_false]
        have kept := keeps_fetchSets c queries
          (window.limit.map (saturatingSum · window.offset)) (q, s)
        change _ = q at kept
        rcases ran : (fetchSets c queries
          (window.limit.map (saturatingSum · window.offset))).runOn (q, s) with ⟨_ | lists, q', s'⟩
        · rw [ran] at kept
          exact ⟨kept, rfl⟩
        · rw [ran] at kept
          cases kept
          rcases window with ⟨_ | limit, offset⟩ <;> exact ⟨rfl, rfl⟩

/-- Fetching a window takes note of it, whatever becomes of the records. -/
theorem query_fetch (c : Client σ T) (convert : Conversion σ α) {limit offset : UInt64}
    (positive : limit ≠ 0) (q : Query) (s : σ) :
    ((fetch c convert limit offset).runOn (q, s)).2.1 =
      q.note (listing c q s ⟨some limit, offset⟩) := by
  rw [← (fetchEntities_notes c ⟨some limit, offset⟩ q s).1]
  simp only [fetch, positive, if_false]
  apply query_of_bind
  intro es
  apply Action.keeps_bind chains_sameQuery (Action.keeps_read chains_sameQuery Prod.fst)
  intro q'
  exact Action.keeps_mapM chains_sameQuery (fun e => keeps_lift _) es

theorem query_count (c : Client σ T) (limit : Option UInt64) (q : Query) (s : σ) :
    ((count c limit).runOn (q, s)).2.1 = q.note (counting c q s limit) := by
  simp only [count, counting, Action.runOn_bind, runOn_query]
  cases q.compile with
  | single primitive =>
      simp only [Action.runOn_bind, runOn_lift]
      rcases ((c.datastore.count primitive limit c.options).runOn s).1 with _ | n <;> rfl
  | multiple queries orders =>
      obtain ⟨noted, answered⟩ := fetchEntities_notes c ⟨limit, 0⟩ q s
      simp only [Action.runOn_bind, Action.runOn_map]
      rcases ran : (fetchEntities c ⟨limit, 0⟩).runOn (q, s) with ⟨_ | es, q', s'⟩
      · rw [ran] at noted answered
        have notListed : (listing c q s ⟨limit, 0⟩).isListing ≠ true :=
          Bool.eq_false_iff.mp answered.symm
        rw [if_neg notListed]
        exact noted
      · rw [ran] at noted answered
        have listed : (listing c q s ⟨limit, 0⟩).isListing = true := answered.symm
        rw [if_pos listed]
        change q'.forgetExecution = q.forgetExecution
        cases noted
        exact Query.forgetExecution_note listed

/-- A call changes the query only as what the store had to do with it says. -/
theorem after_eq_note (c : Client σ T) (convert : Conversion σ α) (call : Call) (q : Query)
    (s : σ) : call.after c convert q s = q.note (call.report c q s) := by
  cases call with
  | run => exact (fetchEntities_notes c {} q s).1
  | fetch limit offset =>
      by_cases nothing : limit = 0
      · subst nothing
        rfl
      · simpa [Call.after, Call.report, Call.window?, nothing] using
          query_fetch c convert nothing q s
  | first =>
      refine Eq.trans (query_of_bind (fun found => ?_) (q, s))
        (query_fetch c convert (by decide) q s)
      exact Action.keeps_pure chains_sameQuery found.getLast?
  | nth index =>
      refine Eq.trans (query_of_bind (fun found => ?_) (q, s))
        (query_fetch c convert (by decide) q s)
      cases found.getLast? with
      | some a => exact Action.keeps_pure chains_sameQuery a
      | none =>
          apply Action.keeps_bind chains_sameQuery
          · rw [resultsUpTo]
            split
            · exact Action.keeps_pure chains_sameQuery (index + 1)
            · exact Action.keeps_overflow chains_sameQuery
          · exact fun results => Action.keeps_fail chains_sameQuery _
  | slice lower upper =>
      simp only [Call.after, Call.report, Call.window?, slice]
      cases upper.stop? with
      | none => rfl
      | some stop =>
          by_cases empty : stop ≤ lower.start
          · simp only [empty, if_true]
            rfl
          · simp only [empty, if_false]
            exact query_fetch c convert (length_ne_zero empty) q s
  | count limit => exact query_count c limit q s
  | recording records => rfl

theorem compile_note (q : Query) (report : Report) : (q.note report).compile = q.compile := by
  cases report <;> simp only [Query.note, Query.recordExecution] <;> first | rfl | (split <;> rfl)

/-- The store tells where results end only for the one primitive query of a call that fetches. -/
theorem exists_of_report_listed {c : Client σ T} {call : Call} {q : Query} {s : σ}
    {cursor : Option Cursor} (listed : call.report c q s = .listed cursor) :
    ∃ window primitive results, call.window? = some window ∧ q.compile = .single primitive ∧
      ((c.datastore.runQuery primitive window c.options).runOn s).1 = .ok results ∧
      results.cursor = cursor := by
  have ofListing : ∀ {window : Window}, listing c q s window = .listed cursor →
      ∃ primitive results, q.compile = .single primitive ∧
        ((c.datastore.runQuery primitive window c.options).runOn s).1 = .ok results ∧
        results.cursor = cursor := by
    intro window listed
    unfold listing at listed
    split at listed
    · rename_i primitive compiled
      split at listed
      · rename_i results answered
        cases listed
        exact ⟨primitive, results, compiled, answered, rfl⟩
      · cases listed
    · split at listed
      · cases listed
      · split at listed <;> cases listed
  cases call with
  | count limit =>
      change counting c q s limit = _ at listed
      unfold counting at listed
      split at listed
      · split at listed <;> cases listed
      · dsimp only at listed
        split at listed
        · cases listed
        · rename_i notListing
          rw [listed] at notListing
          exact absurd rfl notListing
  | recording records => cases listed
  | _ =>
      simp only [Call.report] at listed
      split at listed
      · rename_i window fetches
        exact ⟨window, (ofListing listed).imp fun _ found => found.imp fun _ => .intro fetches⟩
      · cases listed

/-- A token is handed out after a call that the store answered only if the call listed results while
the query recorded. -/
theorem listed_of_token_note {q : Query} {report : Report} (reached : report.reached = true)
    (answered : report ≠ .unanswered) {t : String} (issued : (q.note report).token = .ok t) :
    ∃ cursor, report = .listed (some cursor) ∧ t = cursor.encode ∧
      q.note report = { q with lastCursor := some cursor, lastWasMultiple := false } := by
  obtain ⟨records, cursor, remembered, rfl⟩ := Query.token_eq_ok_iff.mp issued
  cases report with
  | untouched | switched _ => cases reached
  | unanswered => exact absurd rfl answered
  | counted => cases remembered
  | merged =>
      rw [Query.note] at records remembered
      rw [Query.recordsCursor_recordExecution] at records
      rw [Query.recordExecution_of_records records] at remembered
      cases remembered
  | listed ended =>
      rw [Query.note] at records remembered ⊢
      rw [Query.recordsCursor_recordExecution] at records
      rw [Query.recordExecution_of_records records] at remembered ⊢
      cases remembered
      exact ⟨cursor, rfl, rfl, rfl⟩

/-! ## Any number of calls -/

/-- A call, whether the query recorded at the time, and what the store had to do with it. -/
structure Entry where
  call : Call
  records : Bool
  report : Report

/-- Whether the query took note of a call: of its count in any case, and of the place where its
results end if it recorded. -/
def Entry.isNoted (entry : Entry) : Bool :=
  entry.report matches .counted || (entry.records && entry.report.isListing)

/-- Whether a call reached the store. -/
def Entry.reached (entry : Entry) : Bool :=
  entry.report.reached

theorem Entry.reached_of_isNoted {entry : Entry} (noted : entry.isNoted = true) :
    entry.reached = true := by
  obtain ⟨call, records, report⟩ := entry
  cases report <;> simp_all [isNoted, reached, Report.reached, Report.isListing]

/-- The last call that the query took note of. -/
def lastNoted (entries : List Entry) : Option Entry :=
  (entries.filter Entry.isNoted).getLast?

/-- The last call that reached the store. -/
def lastReached (entries : List Entry) : Option Entry :=
  (entries.filter Entry.reached).getLast?

/-- What happens to a query while it is called any number of times, by any clients and on any
stores. -/
inductive History : Query → List Entry → Query → Prop
  | nil (q : Query) : History q [] q
  | step {q q' : Query} {entries : List Entry} (history : History q entries q') {σ T α : Type}
      (c : Client σ T) (convert : Conversion σ α) (s : σ) (call : Call) :
      History q (entries ++ [⟨call, q'.recordsCursor, call.report c q' s⟩])
        (call.after c convert q' s)

theorem lastNoted_concat (entries : List Entry) (entry : Entry) :
    lastNoted (entries ++ [entry]) = if entry.isNoted then some entry else lastNoted entries := by
  unfold lastNoted
  rw [List.filter_append, List.filter_singleton]
  cases entry.isNoted <;> simp

/-- A call that was not noted leaves the trace of the query as it was. -/
theorem trace_note (q : Query) (call : Call) (report : Report) :
    (q.note report).trace =
      if (Entry.mk call q.recordsCursor report).isNoted then report.trace else q.trace := by
  cases report <;>
    simp [Query.note, Query.trace, Entry.isNoted, Report.isListing, Report.trace,
      Query.forgetExecution, Query.recording, Query.recordExecution] <;>
    split <;> rfl

namespace History

variable {q q' : Query} {entries : List Entry}

/-- The trace of a query is that of the last call that it took note of. -/
theorem trace_eq (history : History q entries q') :
    q'.trace = ((lastNoted entries).map (·.report.trace)).getD q.trace := by
  induction history with
  | nil => rfl
  | @step q' entries _ _ _ _ c convert s call inductionHypothesis =>
      rw [after_eq_note, trace_note q' call, lastNoted_concat]
      split
      · rfl
      · exact inductionHypothesis

theorem compile_eq (history : History q entries q') : q'.compile = q.compile := by
  induction history with
  | nil => rfl
  | step _ c convert s call inductionHypothesis =>
      rw [after_eq_note, compile_note, inductionHypothesis]

/-- Calls for which the store listed results have fetched them for the one set of the query. -/
theorem single_of_listed (history : History q entries q') {entry : Entry} (made : entry ∈ entries)
    {cursor : Option Cursor} (listed : entry.report = .listed cursor) :
    entry.call.window?.isSome ∧ ∃ primitive, q.compile = .single primitive := by
  induction history with
  | nil => cases made
  | step earlier c convert s call inductionHypothesis =>
      rcases List.mem_append.mp made with before | last
      · exact inductionHypothesis before
      · obtain rfl := List.mem_singleton.mp last
        obtain ⟨_, primitive, _, fetches, single, _⟩ := exists_of_report_listed listed
        exact ⟨Option.isSome_iff_exists.mpr ⟨_, fetches⟩, primitive, earlier.compile_eq ▸ single⟩

end History

/-- The last call that reached the store is the last one that the query took note of, if it took
note of it. -/
theorem lastReached_eq_lastNoted {entries : List Entry} {latest : Entry}
    (last : lastReached entries = some latest) (noted : latest.isNoted = true) :
    lastNoted entries = some latest := by
  obtain ⟨before, split⟩ := List.getLast?_eq_some_iff.mp last
  have inOrder : entries.filter Entry.isNoted =
      (entries.filter Entry.reached).filter Entry.isNoted := by
    rw [List.filter_filter]
    refine List.filter_congr fun entry _ => ?_
    cases isNoted : entry.isNoted with
    | false => rfl
    | true => rw [Entry.reached_of_isNoted isNoted]; rfl
  rw [lastNoted, inOrder, split, List.filter_append, List.filter_singleton, noted]
  simp

/-- Whenever a query hands out a token, it is that of the place which the store told for the last
call that the query took note of, and that call fetched the results of its one set.  So the token
belongs to the last call that reached the store exactly when the query took note of it: when the
store answered it and the query recorded at the time. -/
theorem token_of_history {q q' : Query} {entries : List Entry} (fresh : q.trace = (none, false))
    (history : History q entries q') {t : String} (issued : q'.token = .ok t) :
    ∃ last cursor, lastNoted entries = some last ∧ last.records = true ∧
      last.report = .listed (some cursor) ∧ t = cursor.encode ∧
      last.call.window?.isSome ∧ (∃ primitive, q.compile = .single primitive) ∧
      (lastReached entries = some last ↔
        ∃ latest, lastReached entries = some latest ∧ latest.isNoted = true) := by
  obtain ⟨_, cursor, remembered, rfl⟩ := Query.token_eq_ok_iff.mp issued
  rw [history.trace_eq] at remembered
  cases found : lastNoted entries with
  | none =>
      rw [found, fresh] at remembered
      cases remembered
  | some last =>
      rw [found] at remembered
      have member := List.mem_filter.mp (List.mem_of_getLast? found)
      obtain ⟨made, noted⟩ := member
      have listed : last.report = .listed (some cursor) := by
        cases report : last.report <;> simp_all [Report.trace]
      have recorded : last.records = true := by
        simpa [Entry.isNoted, listed, Report.isListing] using noted
      obtain ⟨fetches, single⟩ := history.single_of_listed made listed
      refine ⟨last, cursor, rfl, recorded, listed, rfl, fetches, single, ?_⟩
      constructor
      · intro same
        exact ⟨last, same, noted⟩
      · rintro ⟨latest, reached, latestNoted⟩
        have same := lastReached_eq_lastNoted reached latestNoted
        rw [found] at same
        cases same
        exact reached

/-- A query that is counted and then fetched twice. -/
def fetchedTwice : Query :=
  let counted := Call.after Store.plainClient asKey Query.kindless twoRecords (.count none)
  let once := Call.after Store.plainClient asKey counted twoRecords (.fetch 1 0)
  Call.after Store.plainClient asKey once twoRecords (.fetch 1 1)

theorem token_of_fetchedTwice :
    ∃ entries t, History Query.kindless entries fetchedTwice ∧ fetchedTwice.token = .ok t ∧
      ∃ last cursor, lastReached entries = some last ∧ last.report = .listed (some cursor) ∧
        t = cursor.encode := by
  have history := (((History.nil Query.kindless).step Store.plainClient asKey twoRecords
    (.count none)).step Store.plainClient asKey twoRecords (.fetch 1 0)).step Store.plainClient
    asKey twoRecords (.fetch 1 1)
  simp only [fetchedTwice]
  simp only [after_eq_note] at history ⊢
  obtain ⟨last, cursor, noted, _, listed, encoded, _, _, latest⟩ :=
    token_of_history rfl history (t := _) rfl
  exact ⟨_, _, history, rfl, last, cursor, latest.mpr ⟨_, rfl, rfl⟩, listed, encoded⟩

/-- A store with one record. -/
def oneRecord : Store :=
  ({} : Store).write (numbered 1) (some { key := numbered 1 })

/-- A query that is run while there are no records, and again after one was written; it does not
record the second time. -/
def runUnrecorded : Query :=
  let ran := Call.after Store.plainClient asKey Query.kindless {} .run
  let off := Call.after Store.plainClient asKey ran oneRecord (.recording false)
  let again := Call.after Store.plainClient asKey off oneRecord .run
  Call.after Store.plainClient asKey again oneRecord (.recording true)

/-- Recording again after an execution that was not recorded brings back the token of an earlier
one. -/
theorem token_of_runUnrecorded :
    ∃ entries t last cursor, Query.kindless.trace = (none, false) ∧
      History Query.kindless entries runUnrecorded ∧ runUnrecorded.token = .ok t ∧
      lastReached entries = some last ∧ last.call = .run ∧ last.report = .listed (some cursor) ∧
      t ≠ cursor.encode := by
  have history := ((((History.nil Query.kindless).step Store.plainClient asKey {} .run).step
    Store.plainClient asKey oneRecord (.recording false)).step Store.plainClient asKey oneRecord
    .run).step Store.plainClient asKey oneRecord (.recording true)
  refine ⟨_, _, _, _, rfl, history, rfl, rfl, rfl, rfl, ?_⟩
  decide +kernel

end Execution

end EntityStore
