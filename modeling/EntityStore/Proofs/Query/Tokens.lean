import EntityStore.Proofs.Query.Cursor
import EntityStore.Proofs.Query.Resumption
import EntityStore.Proofs.Query.Trace

/-!
# Tokens that can be used

A token holds the sort values of the last record that an execution passed, whatever they are.  It
can be used if all floats among them are numbers and its document is not nested too deep; then the
query resumes at the place that the document says, which is strictly after that record unless a
leap second within a minute was among the values.  Otherwise it is issued all the same and refused
later: a not-a-number is written as a null, which is not read as a float.
-/

namespace EntityStore

namespace Cursor

variable {c : Cursor}

/-- No token is empty. -/
theorem encode_isEmpty (c : Cursor) : c.encode.isEmpty = false := by
  have written : Base64.decode (Base64.encode c.toJson.write) = some c.toJson.write :=
    Base64.decode_encode c.toJson.write
  cases digits : Base64.encode c.toJson.write with
  | nil =>
      rw [digits] at written
      obtain ⟨b, rest, bytes, _⟩ := Json.exists_write_eq_cons c.isWritten_toJson
      rw [bytes] at written
      cases written
  | cons digit digits' => simp [encode, digits]

end Cursor

namespace Query

variable {c : Cursor}

theorem resume_of_isPortable (q : Query) (back : c.FloatsReadBack) (portable : c.IsPortable) :
    q.resume c.encode = .ok { q with cursor := some c.asRead } := by
  rw [resume, c.encode_isEmpty, Cursor.decode_encode_of_isPortable back portable]
  rfl

theorem resume_of_not_isPortable (q : Query) (notPortable : ¬ c.IsPortable) :
    q.resume c.encode = .error (.undecodableCursor c.encode) := by
  rw [resume, c.encode_isEmpty, Cursor.decode_encode_of_not_isPortable notPortable]
  rfl

end Query

/-- The last record that a window shows is the last one that it passes. -/
theorem PrimitiveQuery.getLast?_passed {q : PrimitiveQuery} {s : Store} {window : Window}
    {x : Entity} (last : (window.segment (q.select s.entities)).getLast? = some x) :
    (q.passed s window).getLast? = some x := by
  rw [← drop_take_windowEnd, List.getLast?_drop] at last
  split at last
  · cases last
  · exact last

namespace Execution

variable {α : Type} (retries : Nat) (registry : Registry) (moment : Action Store Moment)
  (configuration : Configuration)

/-- The memory store answers every listing. -/
theorem listing_ne_unanswered (q : Query) (s : Store) (window : Window) :
    listing (Store.client retries registry moment configuration) q s window ≠ .unanswered := by
  intro unanswered
  unfold listing at unanswered
  split at unanswered
  · cases unanswered
  · split at unanswered
    · cases unanswered
    · rw [runOn_fetchSets] at unanswered
      cases unanswered

theorem report_ne_unanswered (call : Call) (q : Query) (s : Store) :
    call.report (Store.client retries registry moment configuration) q s ≠ .unanswered := by
  have listed := listing_ne_unanswered retries registry moment configuration q s
  intro unanswered
  cases call with
  | count limit =>
      rw [Call.report, counting] at unanswered
      split at unanswered
      · cases unanswered
      · dsimp only at unanswered
        split at unanswered
        · cases unanswered
        · exact listed ⟨limit, 0⟩ unanswered
  | recording records => cases unanswered
  | _ =>
      simp only [Call.report] at unanswered
      split at unanswered
      · exact listed _ unanswered
      · cases unanswered

/-- A query with one set runs the primitive query of it. -/
theorem runOn_run_of_single {q : Query} {set : List Clause} (oneSet : q.sets = [set]) (s : Store) :
    ((run (Store.client retries registry moment configuration)).runOn (q, s)).1 =
      .ok (((q.primitive set).select s.entities).map q.project) := by
  obtain ⟨q', ran⟩ := runOn_fetchEntities_single retries registry moment configuration oneSet {} s
  rw [Window.segment_unlimited] at ran
  exact congrArg Prod.fst ran

/-- Every token that is issued after an execution stands for the place where the one primitive query
of the execution ended.  If all floats of that place are numbers and its document is not nested too
deep, the query accepts the token, and run again, on whatever the store has become, it answers the
accepted records after the place that the document says; if no leap second in it lies within a
minute, these are the ones that come strictly after the last record of the execution.  Otherwise
the query refuses the token. -/
theorem token_resumes (convert : Conversion Store α) {q : Query} {call : Call} {s : Store}
    {t : String} :
    let c := Store.client retries registry moment configuration
    let q' := call.after c convert q s
    (call.report c q s).reached = true → q'.token = .ok t →
    (∀ cursor ∈ q'.lastCursor, cursor.FloatsReadBack) →
    ∃ window set cursor, call.window? = some window ∧ q.sets = [set] ∧
      (s.runQuery (q.primitive set) window).cursor = some cursor ∧ t = cursor.encode ∧
      ((fetchEntities c window).runOn (q, s)).1 =
        .ok ((window.segment ((q.primitive set).select s.entities)).map q.project) ∧
      (cursor.IsPortable → ∃ resumed, q'.resume t = .ok resumed ∧
        ∀ s' : Store, ∃ found,
          ((run c).runOn (resumed, s')).1 = .ok (found.map q.project) ∧
          Listing q.orders (fun e => e ∈ s'.entities ∧ (q.primitive set).accepts e ∧
            cursor.asRead.precedes e q.orders) found ∧
          ((∀ moment ∈ cursor.times, moment.IsRegular) →
            ∀ x, (window.segment ((q.primitive set).select s.entities)).getLast? = some x →
              Listing q.orders (fun e => e ∈ s'.entities ∧ (q.primitive set).accepts e ∧
                x.order e q.orders = .lt) found)) ∧
      (¬ cursor.IsPortable → q'.resume t = .error (.undecodableCursor t)) := by
  intro c q' reached issued back
  have noted : q' = q.note (call.report c q s) := after_eq_note c convert call q s
  rw [noted] at issued
  obtain ⟨cursor, listed, rfl, recorded⟩ := listed_of_token_note reached
    (report_ne_unanswered retries registry moment configuration call q s) issued
  rw [← noted] at recorded
  obtain ⟨window, primitive, results, fetches, single, answered, ended⟩ :=
    exists_of_report_listed listed
  obtain ⟨set, oneSet, compiled⟩ | multiple := q.compile_cases
  · rw [compiled] at single
    cases single
    cases answered
    have cursorTold : (s.runQuery (q.primitive set) window).cursor = some cursor := ended
    obtain ⟨fetched, handedOut⟩ := runOn_fetchEntities_single retries registry moment configuration
      oneSet window s
    refine ⟨window, set, cursor, fetches, oneSet, cursorTold, rfl, congrArg Prod.fst handedOut, ?_,
      q'.resume_of_not_isPortable⟩
    intro portable
    have accepted := q'.resume_of_isPortable (back cursor (by rw [recorded]; rfl)) portable
    rw [recorded] at accepted ⊢
    refine ⟨_, accepted, fun s' => ⟨_, runOn_run_of_single retries registry moment configuration
      (q := { q with cursor := some cursor.asRead, lastCursor := some cursor,
                     lastWasMultiple := false }) oneSet s', ?_, fun regular x last => ?_⟩⟩
    · exact PrimitiveQuery.listing_select { q.primitive set with cursor := some cursor.asRead }
        s'.distinctKeys_entities
    · rw [Cursor.asRead_eq_self_iff.mpr regular, ← cursorTold]
      exact PrimitiveQuery.listing_select_resumed (PrimitiveQuery.getLast?_passed last) s'
  · rw [multiple] at single
    cases single

/-- A kind of scores. -/
def scores : Definition where
  kind := "Score"
  declared := [("points", { kind := .float })]

/-- A store with one score. -/
def oneScore (points : Binary64) : Store :=
  let key : Key := ⟨[⟨"Score", some (.number 1)⟩]⟩
  ({} : Store).write key (some { key, fields := .ofList [("points", Value.float points)] })

/-- The double of one half. -/
def half : Binary64 :=
  ⟨0x3fe0000000000000⟩

theorem token_resumes_half :
    ∃ schema q t, scores.assemble = .ok schema ∧
      (Query.ofSchema schema).order "points" = .ok q ∧
      (Call.run.report Store.plainClient q (oneScore half)).reached = true ∧
      (Call.run.after Store.plainClient asKey q (oneScore half)).token = .ok t ∧
      (∀ cursor ∈ (Call.run.after Store.plainClient asKey q (oneScore half)).lastCursor,
        cursor.FloatsReadBack) ∧
      ∃ resumed, (Call.run.after Store.plainClient asKey q (oneScore half)).resume t =
          .ok resumed ∧
        ∀ s' : Store, ∃ found : List Entity,
          ((run Store.plainClient).runOn (resumed, s')).1 = .ok (found.map q.project) := by
  refine ⟨_, _, _, rfl, rfl, rfl, rfl, (fun back => ⟨back, ?resumes⟩) ?back⟩
  case back =>
    rintro cursor ⟨⟩
    decide +kernel
  case resumes =>
    obtain ⟨_, _, cursor, fetches, oneSet, ended, _, _, usable, _⟩ :=
      @token_resumes _ 3 {} (pure { now := ⟨.epoch, .midnight⟩ }) {} asKey _ .run _ _ rfl rfl back
    cases fetches
    cases oneSet
    cases ended
    obtain ⟨resumed, accepted, again⟩ := usable ⟨by decide +kernel, by decide +kernel⟩
    exact ⟨resumed, accepted, fun s' => (again s').imp fun _ => And.left⟩

/-- A record with a not-a-number is found and its place is issued as a token, which the same query
refuses. -/
theorem token_of_notANumber :
    ∃ schema q t, scores.assemble = .ok schema ∧
      (Query.ofSchema schema).order "points" = .ok q ∧
      (Call.run.report Store.plainClient q (oneScore (Binary64.quietNaN false))).reached = true ∧
      (Call.run.after Store.plainClient asKey q (oneScore (Binary64.quietNaN false))).token =
        .ok t ∧
      (Call.run.after Store.plainClient asKey q (oneScore (Binary64.quietNaN false))).resume t =
        .error (.undecodableCursor t) := by
  refine ⟨_, _, _, rfl, rfl, rfl, rfl, Query.resume_of_not_isPortable _ fun portable => ?_⟩
  exact absurd (portable.finite (Binary64.quietNaN false) (by decide +kernel)) (by decide)

/-- A kind of shifts. -/
def shifts : Definition where
  kind := "Shift"
  declared := [("end", { kind := .dateTime {} })]

/-- A shift that ends in a leap second within a minute. -/
def shift : Entity where
  key := ⟨[⟨"Shift", some (.number 1)⟩]⟩
  fields := .ofList [("end", Value.dateTime ⟨.epoch, 13, 45, 13, 1333333333, by decide⟩)]

/-- A store with one shift. -/
def oneShift : Store :=
  ({} : Store).write shift.key (some shift)

/-- The one shift is selected from every place that it comes after. -/
theorem select_oneShift {q : PrimitiveQuery}
    (wanted : (q.accepts shift && q.reaches shift) = true) :
    q.select oneShift.entities = [shift] := by
  have stored : oneShift.entities = [shift] := rfl
  rw [PrimitiveQuery.select, stored, List.filter_singleton, wanted, PrimitiveQuery.sort]
  exact List.mergeSort_singleton shift

/-- The token of a leap second within a minute says the second after it, so in descending order the
last record comes again. -/
theorem token_of_leapSecond :
    ∃ schema q t resumed, shifts.assemble = .ok schema ∧
      (Query.ofSchema schema).order "-end" = .ok q ∧
      ((run Store.plainClient).runOn (q, oneShift)).1 = .ok [shift] ∧
      (Call.run.after Store.plainClient asKey q oneShift).token = .ok t ∧
      (Call.run.after Store.plainClient asKey q oneShift).resume t = .ok resumed ∧
      ((run Store.plainClient).runOn (resumed, oneShift)).1 = .ok [shift] := by
  refine ⟨_, { Query.ofSchema _ with orders := [⟨"end", .descending⟩] }, _, _, rfl, rfl, ?_, rfl,
    Query.resume_of_isPortable _ ?_ ?_, ?_⟩
  · rw [Store.plainClient, runOn_run_of_single 3 {} _ {} rfl, select_oneShift rfl]
    rfl
  · decide +kernel
  · exact ⟨by decide +kernel, by decide +kernel⟩
  · rw [Store.plainClient, runOn_run_of_single 3 {} _ {} rfl, select_oneShift]
    · rfl
    · decide +kernel

end Execution

end EntityStore
