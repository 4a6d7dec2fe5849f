import EntityStore.Proofs.Store.Writes

/-!
# Bodies of transactions

The body of a transaction is a tree of calls: each call is chosen by what the calls before it
answered, failures included, and every branch ends with a value or a failure.  Others work on the
same store and take a turn before each call and at the end of the body.  Whatever they do, the
body itself leaves records and versions alone, and what it has buffered at the end are the writes
of its calls, one after the other.
-/

namespace EntityStore

namespace Call

/-- What a call answers. -/
def Answer : Call → Type
  | get _ => List (Option Entity)
  | put _ => List Key
  | delete _ => Unit
  | allocateIds _ _ => Int64 × Int64
  | runQuery _ _ => QueryResults
  | count _ _ => Nat

/-- Makes the call. -/
def ask {σ : Type} (storage : Storage σ) (options : CallOptions) :
    (call : Call) → Action σ call.Answer
  | get keys => storage.get keys options
  | put es => storage.put es options
  | delete keys => storage.delete keys options
  | allocateIds key size => storage.allocateIds key size options
  | runQuery q window => storage.runQuery q window options
  | count q limit => storage.count q limit options

/-- The writes that a call inside a transaction buffers, in their order. -/
def writes (state : Transaction.OnStore) : Call → List Write
  | put es => (Action.answered Transaction.putOne es state).map Write.ofPut
  | delete keys =>
    (Action.answered Transaction.deleteOne keys state).map fun removed => .removal removed.1
  | _ => []

theorem ask_on {σ τ : Type} (part : Part σ τ) (storage : Storage τ) (options : CallOptions)
    (call : Call) :
    call.ask (storage.on part) options = Action.on part (call.ask storage options) := by
  cases call <;> rfl

theorem runOn_perform_snd {σ : Type} (storage : Storage σ) (options : CallOptions) (call : Call)
    (s : σ) :
    ((call.perform storage options).runOn s).2 = ((call.ask storage options).runOn s).2 := by
  cases call with
  | delete keys => rfl
  | get | put | allocateIds | runQuery | count => exact congrArg Prod.snd (Action.runOn_map _ _ _)

end Call

/-! ## Calls inside a transaction -/

namespace Transaction

theorem chains_buffers_nil : Chains (Buffers []) where
  refl := logs_buffers.refl
  trans first second := logs_buffers.append first second

theorem keeps_buffers_nil_enterGroup (key : Key) :
    Action.Keeps (Buffers []) (enterGroup key) := by
  rintro ⟨t, s⟩
  rcases runOn_enterGroup_cases key t s with ⟨_, entered⟩ | ⟨_, entered⟩ | ⟨_, refused⟩
  · rw [entered]
    exact buffers_of_writes_eq rfl
  · rw [entered]
    exact buffers_of_writes_eq rfl
  · rw [refused]
    exact buffers_of_writes_eq rfl

theorem keeps_buffers_nil_ask {α : Type} (q : PrimitiveQuery) (f : OnStore → α) :
    Action.Keeps (Buffers []) (enterQuery q >>= fun _ => Action.read f) := by
  refine Action.keeps_bind chains_buffers_nil ?_ fun _ => Action.keeps_read chains_buffers_nil f
  unfold enterQuery
  split
  · exact keeps_buffers_nil_enterGroup _
  · exact Action.keeps_fail chains_buffers_nil _

/-- A call buffers its writes. -/
theorem buffers_ask (call : Call) (options : CallOptions) (state : OnStore) :
    Buffers (call.writes state) state ((call.ask storage options).runOn state).2 := by
  cases call with
  | get keys =>
      refine Action.keeps_mapM chains_buffers_nil ?_ keys state
      intro key
      exact Action.keeps_bind chains_buffers_nil (keeps_buffers_nil_enterGroup key) fun _ =>
        Action.keeps_read chains_buffers_nil _
  | put es => exact buffers_put es state
  | delete keys => exact buffers_delete keys state
  | allocateIds key size => exact buffers_of_writes_eq rfl
  | runQuery q window => exact keeps_buffers_nil_ask q _ state
  | count q limit => exact keeps_buffers_nil_ask q _ state

theorem continues_ask (call : Call) (options : CallOptions) (state : OnStore) :
    Continues state ((call.ask storage options).runOn state).2 := by
  rw [← Call.runOn_perform_snd]
  exact keeps_perform options call state

theorem ends_enterGroup (key : Key) : Action.Ends (enterGroup key) := by
  rintro ⟨t, s⟩
  rcases runOn_enterGroup_cases key t s with ⟨_, entered⟩ | ⟨_, entered⟩ | ⟨_, refused⟩
  · simp [entered]
  · simp [entered]
  · simp [refused]

theorem ends_writeOne (key : Key) (e : Option Entity) : Action.Ends (writeOne key e) :=
  Action.ends_bind (ends_enterGroup key) fun _ => Action.ends_update _

theorem ends_enterQuery (q : PrimitiveQuery) : Action.Ends (enterQuery q) := by
  unfold enterQuery
  split
  · exact ends_enterGroup _
  · exact Action.ends_fail _

/-- Every call inside a transaction answers or fails. -/
theorem ends_ask (call : Call) (options : CallOptions) :
    Action.Ends (call.ask storage options) := by
  cases call with
  | get keys =>
      apply Action.ends_mapM
      intro key
      exact Action.ends_bind (ends_enterGroup key) fun _ => Action.ends_read _
  | put es =>
      apply Action.ends_mapM
      intro e
      apply Action.ends_bind (Action.ends_on _ (Store.ends_complete e.key))
      intro key
      exact Action.ends_bind (ends_writeOne key _) fun _ => Action.ends_pure key
  | delete keys => exact Action.ends_forM (fun key => ends_writeOne key none) keys
  | allocateIds key size => exact Action.ends_on _ (Store.ends_allocate size)
  | runQuery q window => exact Action.ends_bind (ends_enterQuery q) fun _ => Action.ends_read _
  | count q limit => exact Action.ends_bind (ends_enterQuery q) fun _ => Action.ends_read _

end Transaction

/-! ## Others on the same store -/

/-- What the others make of the store, turn by turn. -/
abbrev Others := Nat → Store → Store

/-- A store that others work on as well. -/
structure Shared where
  store : Store
  /-- How often the body of a transaction has begun. -/
  attempts : Nat := 0
  /-- What the others found at each of their turns, the latest first. -/
  turns : List Store := []

namespace Shared

/-- The store inside the shared state. -/
def part : Part Shared Store :=
  ⟨store, fun s w => { w with store := s }⟩

/-- The others take a turn. -/
def disturb (others : Others) (w : Shared) : Shared :=
  { w with store := others w.turns.length w.store, turns := w.store :: w.turns }

/-- The body begins once more. -/
def begin (w : Shared) : Shared :=
  { w with attempts := w.attempts + 1 }

/-- The calls of a transaction on the shared store. -/
def view : Storage (Transaction × Shared) :=
  Transaction.storage.on (Transaction.partOf part)

/-- The others take a turn while a transaction is open. -/
def pause (others : Others) : Action (Transaction × Shared) Unit :=
  Action.update fun (t, w) => (t, w.disturb others)

end Shared

/-- Whether a store has come from another by turns of the others alone; in between, nothing but the
next id has changed. -/
def Store.Quiet (others : Others) (s : Store) : List Store → Store → Prop
  | [], s' => s.Untouched s'
  | found :: earlier, s' =>
    Quiet others s earlier found ∧ (others earlier.length found).Untouched s'

theorem Store.Quiet.of_untouched {others : Others} {s s' s'' : Store} {turns : List Store}
    (quiet : Quiet others s turns s') (untouched : s'.Untouched s'') :
    Quiet others s turns s'' := by
  cases turns with
  | nil => exact chains_untouched.trans quiet untouched
  | cons found earlier => exact ⟨quiet.1, chains_untouched.trans quiet.2 untouched⟩

/-! ## Bodies -/

/-- The body of a transaction that ends with an `α`. -/
inductive Body (α : Type) where
  | done (outcome : Except Failure α)
  | ask (call : Call) (options : CallOptions) (next : Except Failure call.Answer → Body α)

namespace Body

variable {σ α : Type}

/-- Runs a body, with a pause before each call and at the end. -/
def perform (storage : Storage σ) (pause : Action σ Unit) : Body α → Action σ α
  | .done outcome => do
    pause
    Action.ofExcept outcome
  | .ask call options next => do
    pause
    let answer ← (call.ask storage options).attempt
    (next answer).perform storage pause

/-- The writes that the calls of a body buffer, in their order. -/
def writes (others : Others) : Body α → Transaction × Shared → List Write
  | .done _, _ => []
  | .ask call options next, (t, w) =>
    call.writes (t, (w.disturb others).store) ++
      match (call.ask Shared.view options).attempt.runOn (t, w.disturb others) with
      | (.ok answer, state) => (next answer).writes others state
      | (.error _, _) => []

/-- An open transaction on a shared store, and the same after some calls with some writes. -/
structure Went (others : Others) (writes : List Write) (before after : Transaction × Shared) :
    Prop where
  quiet : ∀ s, Store.Quiet others s before.2.turns before.2.store →
    Store.Quiet others s after.2.turns after.2.store
  attempts : after.2.attempts = before.2.attempts
  confined : before.1.Confined → after.1.Confined
  buffers : Transaction.Buffers writes (before.1, before.2.store) (after.1, after.2.store)

theorem logs_went (others : Others) : Logs (Went others) where
  refl _ := ⟨fun _ quiet => quiet, rfl, id, Transaction.logs_buffers.refl _⟩
  append first second := {
    quiet := fun s quiet => second.quiet s (first.quiet s quiet)
    attempts := second.attempts.trans first.attempts
    confined := fun confined => second.confined (first.confined confined)
    buffers := Transaction.logs_buffers.append first.buffers second.buffers }

theorem went_disturb (others : Others) (t : Transaction) (w : Shared) :
    Went others [] (t, w) (t, w.disturb others) where
  quiet _ quiet := ⟨quiet, Store.chains_untouched.refl _⟩
  attempts := rfl
  confined := id
  buffers := Transaction.buffers_of_writes_eq rfl

theorem went_ask (others : Others) (call : Call) (options : CallOptions) (t : Transaction)
    (w : Shared) :
    Went others (call.writes (t, w.store)) (t, w)
      ((call.ask Shared.view options).runOn (t, w)).2 := by
  have continues := Transaction.continues_ask call options (t, w.store)
  rw [Shared.view, Call.ask_on]
  exact {
    quiet := fun _ quiet => quiet.of_untouched continues.untouched
    attempts := rfl
    confined := continues.confined
    buffers := Transaction.buffers_ask call options (t, w.store) }

theorem ends_perform (others : Others) (body : Body α) :
    Action.Ends (body.perform Shared.view (Shared.pause others)) := by
  induction body with
  | done outcome =>
      refine Action.ends_bind (Action.ends_update _) fun _ => ?_
      cases outcome with
      | ok a => exact Action.ends_pure a
      | error cause => exact Action.ends_fail cause
  | ask call options next ih =>
      refine Action.ends_bind (Action.ends_update _) fun _ => Action.ends_bind ?_ ih
      rw [Shared.view, Call.ask_on]
      exact (Action.ends_on _ (Transaction.ends_ask call options)).attempt

/-- A body goes from its beginning to its end with the writes of its calls. -/
theorem went_perform (others : Others) (body : Body α) (state : Transaction × Shared) :
    Went others (body.writes others state) state
      ((body.perform Shared.view (Shared.pause others)).runOn state).2 := by
  induction body generalizing state with
  | done outcome =>
      rw [perform, Action.runOn_bind]
      cases outcome <;> exact went_disturb others state.1 state.2
  | ask call options next ih =>
      obtain ⟨t, w⟩ := state
      have asked := went_ask others call options t (w.disturb others)
      rw [← Action.runOn_attempt_snd] at asked
      refine (logs_went others).append (went_disturb others t w) ?_
      simp only [perform, writes, Action.runOn_bind, Shared.pause, Action.runOn_update]
      rcases ran : (call.ask Shared.view options).attempt.runOn (t, w.disturb others) with
        ⟨error | answer, state'⟩
      · rw [ran] at asked
        exact (logs_went others).append asked ((logs_went others).refl state')
      · rw [ran] at asked
        exact (logs_went others).append asked (ih answer state')

end Body

end EntityStore
