import EntityStore.Proofs.Client.Retries
import Mathlib.Logic.Function.Iterate

/-!
# The steps of `getOrInsert`

A call to `getOrInsert` touches the store three times in each attempt: when it looks the instance
up, when it puts a new one, and when it commits.  Between these moments others may work on the
store.  A `Caller` is such a call between two of its steps, and a call that is left alone is what
its steps make of it one after the other, retries included.
-/

namespace EntityStore

/-- The instance that a call is about. -/
structure Goal where
  schema : Schema
  name : String
  parent : Option Key

namespace Goal

/-- The key at which the call looks. -/
def key (goal : Goal) : Except Failure Key :=
  Key.build goal.parent goal.schema.kind (.name goal.name)

/-- The description of the instance that a call with some values creates. -/
def builder (goal : Goal) (values : List (String × Value)) : Builder :=
  Client.named goal.schema goal.name goal.parent values

end Goal

/-- How far an attempt has come. -/
inductive Phase where
  | looking
  /-- Nothing was found. -/
  | absent
  | built (m : Model)
  /-- The body has answered, and the attempt is about to commit. -/
  | ended (m : Model)
  | returned (m : Model)
  | failed (cause : Interruption)

/-- How a call ends. -/
def Phase.ofOutcome : Except Interruption Model → Phase
  | .ok m => .returned m
  | .error cause => .failed cause

/-- A call between two of its steps. -/
structure Caller where
  values : List (String × Value)
  /-- How many more attempts may follow. -/
  retries : Nat
  phase : Phase := .looking
  transaction : Transaction := {}

namespace Caller

variable {σ α : Type}

/-- Goes on with an action of the body. -/
def proceed (caller : Caller) (x : Action (Transaction × σ) α) (next : α → Phase) (s : σ) :
    Caller × σ :=
  match x.runOn (caller.transaction, s) with
  | (.ok a, (t, s)) => ({ caller with phase := next a, transaction := t }, s)
  | (.error cause, (t, s)) => ({ caller with phase := .failed cause, transaction := t }, s)

/-- What becomes of a call when the commit of an attempt went through or was refused. -/
def conclude (caller : Caller) (m : Model) : Bool → Caller
  | true => { caller with phase := .returned m }
  | false =>
    match caller.retries with
    | 0 => { caller with phase := .failed (.failure .transactionCollided) }
    | retries + 1 => { values := caller.values, retries }

theorem values_conclude (caller : Caller) (m : Model) (committed : Bool) :
    (caller.conclude m committed).values = caller.values := by
  obtain ⟨values, retries, phase, t⟩ := caller
  cases committed <;> cases retries <;> rfl

/-- One step of a call. -/
def step (goal : Goal) (c : Client σ Transaction) (part : Part σ Store) (caller : Caller) (s : σ) :
    Caller × σ :=
  let inner := c.inside (Transaction.storage.on (Transaction.partOf part))
  match caller.phase with
  | .looking =>
    caller.proceed (inner.findBy goal.schema (.name goal.name) goal.parent)
      (fun found => (found.map .ended).getD .absent) s
  | .absent => caller.proceed (inner.build (goal.builder caller.values)) .built s
  | .built m => caller.proceed (inner.put m) (fun put => .ended put.1) s
  | .ended m =>
    let (committed, store) := caller.transaction.commit (part.get s)
    (caller.conclude m committed, part.set store s)
  | .returned _ | .failed _ => (caller, s)

/-- Some steps of a call that is left alone. -/
def steps (goal : Goal) (c : Client σ Transaction) (part : Part σ Store) (n : Nat)
    (state : Caller × σ) : Caller × σ :=
  (fun state => step goal c part state.1 state.2)^[n] state

/-! ## A call that is left alone -/

variable {goal : Goal} {c : Client σ Transaction} {part : Part σ Store}
  {values : List (String × Value)} {retries : Nat}

theorem steps_succ (n : Nat) (state : Caller × σ) :
    steps goal c part (n + 1) state = steps goal c part n (step goal c part state.1 state.2) :=
  Function.iterate_succ_apply _ n state

theorem steps_add (m n : Nat) (state : Caller × σ) :
    steps goal c part (m + n) state = steps goal c part n (steps goal c part m state) := by
  rw [Nat.add_comm, steps, Function.iterate_add_apply]
  rfl

/-- The body of the transaction that a call runs. -/
def body (goal : Goal) (c : Client σ Transaction) (part : Part σ Store)
    (values : List (String × Value)) : Action (Transaction × σ) Model :=
  (c.inside (Transaction.storage.on (Transaction.partOf part))).getOrInsertInside goal.schema
    goal.name goal.parent values

/-- How far an attempt has come when its body has ended. -/
def afterBody (values : List (String × Value)) (retries : Nat) :
    Except Interruption Model × Transaction × σ → Caller × σ
  | (.ok m, t, s) => ({ values, retries, phase := .ended m, transaction := t }, s)
  | (.error cause, t, s) => ({ values, retries, phase := .failed cause, transaction := t }, s)

variable (goal c part values)

/-- At most three steps take an attempt to the end of its body. -/
theorem exists_steps_body (retries : Nat) (s : σ) :
    ∃ n, steps goal c part n ({ values, retries }, s) =
      afterBody values retries ((body goal c part values).runOn ({}, s)) := by
  rw [body, Client.getOrInsertInside, Action.runOn_bind]
  rcases looked : ((c.inside (Transaction.storage.on (Transaction.partOf part))).findBy goal.schema
    (.name goal.name) goal.parent).runOn ({}, s) with ⟨cause | found, t, s'⟩
  · exact ⟨1, by simp only [steps_succ, step, proceed, looked]; rfl⟩
  cases found with
  | some m => exact ⟨1, by simp only [steps_succ, step, proceed, looked]; rfl⟩
  | none =>
    dsimp only
    rw [Action.runOn_bind, ← Goal.builder]
    rcases made : ((c.inside (Transaction.storage.on (Transaction.partOf part))).build
      (goal.builder values)).runOn (t, s') with ⟨cause | m, t', s''⟩
    · refine ⟨2, ?_⟩
      simp only [steps_succ, step, proceed, looked, made, Option.map_none, Option.getD_none]
      rfl
    · refine ⟨3, ?_⟩
      simp only [steps_succ, step, proceed, looked, made, Option.map_none, Option.getD_none,
        Action.runOn_bind]
      rcases ((c.inside (Transaction.storage.on (Transaction.partOf part))).put m).runOn (t', s'')
        with ⟨cause | ⟨m', key⟩, t'', s'''⟩
      · rfl
      · rfl

/-- How an attempt leaves a call. -/
def AfterAttempt (values : List (String × Value)) (retries : Nat) (caller : Caller) :
    Except Interruption (Option Model) → Prop
  | .ok (some m) => caller.phase = .returned m
  | .ok none => ∃ m t,
    caller = conclude { values, retries, phase := .ended m, transaction := t } m false
  | .error cause => caller.phase = .failed cause

/-- One step more takes an attempt through its commit. -/
theorem exists_steps_attempt (retries : Nat) (s : σ) : ∃ n caller,
    steps goal c part n ({ values, retries }, s) =
        (caller, ((Transaction.runOnce part (body goal c part values)).runOn s).2) ∧
      AfterAttempt values retries caller
        ((Transaction.runOnce part (body goal c part values)).runOn s).1 := by
  obtain ⟨n, attempted⟩ := exists_steps_body goal c part values retries s
  rw [Transaction.runOnce, Action.runOn_ofFunction]
  rcases ended : (body goal c part values).runOn ({}, s) with ⟨cause | m, t, s'⟩
  · rw [ended] at attempted
    exact ⟨n, _, attempted, rfl⟩
  · rw [ended] at attempted
    refine ⟨n + 1, conclude { values, retries, phase := .ended m, transaction := t } m
      (t.commit (part.get s')).1, ?_, ?_⟩
    · rw [steps_add, attempted]
      rfl
    · dsimp only
      cases (t.commit (part.get s')).1 with
      | true => rfl
      | false => exact ⟨m, t, rfl⟩

/-- The steps of a call end as the transaction does that it runs. -/
theorem exists_steps_run (retries : Nat) (s : σ) : ∃ n caller,
    steps goal c part n ({ values, retries }, s) =
        (caller, ((Transaction.run part (body goal c part values) retries).runOn s).2) ∧
      caller.phase =
        .ofOutcome ((Transaction.run part (body goal c part values) retries).runOn s).1 := by
  induction retries generalizing s with
  | zero =>
    obtain ⟨n, caller, taken, attempted⟩ := exists_steps_attempt goal c part values
      0 s
    rw [Transaction.run, Action.runOn_bind]
    rcases once : (Transaction.runOnce part (body goal c part values)).runOn s with
      ⟨cause | _ | m, s'⟩
    all_goals rw [once] at taken attempted
    · exact ⟨n, caller, taken, attempted⟩
    · obtain ⟨m, t, rfl⟩ := attempted
      exact ⟨n, _, taken, rfl⟩
    · exact ⟨n, caller, taken, attempted⟩
  | succ retries ih =>
    obtain ⟨n, caller, taken, attempted⟩ := exists_steps_attempt goal c part values
      (retries + 1) s
    rw [Transaction.run, Action.runOn_bind]
    rcases once : (Transaction.runOnce part (body goal c part values)).runOn s with
      ⟨cause | _ | m, s'⟩
    all_goals rw [once] at taken attempted
    · exact ⟨n, caller, taken, attempted⟩
    · obtain ⟨m, t, rfl⟩ := attempted
      obtain ⟨n', caller, taken', ended⟩ := ih s'
      refine ⟨n + n', caller, ?_, ended⟩
      rw [steps_add, taken]
      exact taken'
    · exact ⟨n, caller, taken, attempted⟩

end Caller

/-- A call to `getOrInsert` that is left alone ends as its steps do. -/
theorem Client.exists_steps_getOrInsert {σ : Type} (goal : Goal) (c : Client σ Transaction)
    (part : Part σ Store) (values : List (String × Value)) (retries : Nat)
    (memory : c.datastore = Store.datastore part retries)
    (unhurried : c.configuration.deadline = none) (s : σ) : ∃ n caller,
    Caller.steps goal c part n ({ values, retries }, s) =
        (caller, ((c.getOrInsert goal.schema goal.name goal.parent values).runOn s).2) ∧
      caller.phase =
        .ofOutcome ((c.getOrInsert goal.schema goal.name goal.parent values).runOn s).1 := by
  rw [getOrInsert, runOn_runInTransaction memory unhurried]
  exact Caller.exists_steps_run goal c part values retries s

end EntityStore
