import EntityStore.Proofs.Client.Retries
import EntityStore.Proofs.Store.Body

/-!
# Transactions are all or nothing

A transaction runs its body until a commit goes through, the body fails, or the attempts are used
up.  While the body runs, whoever else works on the store sees nothing of it but ids that are taken.
The one commit that goes through makes the writes of its own attempt take effect in a single step;
when the transaction fails, nothing has been written.
-/

namespace EntityStore

/-! ## Attempts on a shared store -/

namespace Shared

variable {α : Type}

/-- One attempt of a transaction.  The body may be another one each time. -/
def attempt (others : Others) (body : Nat → Body α) (view : Storage (Transaction × Shared)) :
    Action (Transaction × Shared) α := do
  let n ← Action.read fun (_, w) => w.attempts
  Action.update fun (t, w) => (t, w.begin)
  (body n).perform view (pause others)

/-- The writes of the attempt that begins next, in their order. -/
def attemptWrites (others : Others) (body : Nat → Body α) (w : Shared) : List Write :=
  (body w.attempts).writes others ({}, w.begin)

/-- A shared store and the same after some runs of the body without a commit. -/
structure Passed (others : Others) (n : Nat) (w w' : Shared) : Prop where
  quiet : ∀ s, Store.Quiet others s w.turns w.store → Store.Quiet others s w'.turns w'.store
  attempts : w'.attempts = w.attempts + n

variable {others : Others} {body : Nat → Body α} {w w' : Shared}

theorem runOn_attempt (w : Shared) :
    (attempt others body view).runOn ({}, w) =
      ((body w.attempts).perform view (pause others)).runOn ({}, w.begin) := by
  simp only [attempt, Action.runOn_bind, Action.runOn_read, Action.runOn_update]

theorem went_attempt {outcome : Except Interruption α} {t : Transaction}
    (ran : (attempt others body view).runOn ({}, w) = (outcome, (t, w'))) :
    Body.Went others (w.attemptWrites others body) ({}, w.begin) (t, w') := by
  have went := Body.went_perform others (body w.attempts) ({}, w.begin)
  rw [← runOn_attempt, ran] at went
  exact went

theorem Passed.of_went {writes : List Write} {t : Transaction}
    (went : Body.Went others writes ({}, w.begin) (t, w')) : Passed others 1 w w' :=
  ⟨went.quiet, went.attempts⟩

theorem Passed.trans {m n : Nat} {w'' : Shared} (first : Passed others m w w')
    (second : Passed others n w' w'') : Passed others (m + n) w w'' where
  quiet s quiet := second.quiet s (first.quiet s quiet)
  attempts := by rw [second.attempts, first.attempts, Nat.add_assoc]

/-- Refused attempts pass by without a trace. -/
theorem passed_of_collisions {n : Nat}
    (collisions : Transaction.Collisions part (attempt others body view) n w w') :
    Passed others n w w' := by
  induction collisions with
  | none w => exact ⟨fun _ quiet => quiet, rfl⟩
  | next ran refused rest ih =>
      rename_i n w w₁ w₂ a t
      have same : part.set (t.commit (part.get w₁)).2 w₁ = w₁ := by
        rw [Transaction.commit_snd_of_refused (by simp [refused])]
        rfl
      rw [same] at ih
      rw [Nat.add_comm]
      exact (Passed.of_went (went_attempt ran)).trans ih

theorem ends_attempt (others : Others) (body : Nat → Body α) (w : Shared) :
    ((attempt others body view).runOn ({}, w)).1 ≠ .error .stalled := by
  rw [runOn_attempt]
  exact Body.ends_perform others (body w.attempts) _

/-- Whether the first `n` attempts of a transaction that began on a store have collided. -/
def Collided (others : Others) (body : Nat → Body α) (s : Store) (n : Nat) (w : Shared) : Prop :=
  Transaction.Collisions part (attempt others body view) n { store := s } w

/-- At its end an attempt after `n` collisions is one of `n + 1`, and has left no trace. -/
theorem Collided.attempt {s : Store} {n : Nat} (collided : Collided others body s n w)
    {outcome : Except Interruption α} {t : Transaction}
    (ran : (attempt others body view).runOn ({}, w) = (outcome, (t, w'))) :
    w.attempts = n ∧ w'.attempts = n + 1 ∧ Store.Quiet others s w'.turns w'.store := by
  have passed := passed_of_collisions collided
  have passed' := passed.trans (Passed.of_went (went_attempt ran))
  refine ⟨?_, ?_, passed'.quiet s (Store.chains_untouched.refl s)⟩
  · rw [passed.attempts, Nat.zero_add]
  · rw [passed'.attempts, Nat.zero_add]

end Shared

/-- A transaction that began on a store, ended with an outcome, and is all or nothing. -/
structure AllOrNothing {α : Type} (others : Others) (body : Nat → Body α) (retries : Nat)
    (s : Store) (outcome : Except Interruption α) (after : Shared) : Prop where
  attempts_le : after.attempts ≤ retries + 1
  ends : outcome ≠ .error .stalled
  /-- The value is that of the last attempt.  Until its commit nothing was written; by the commit
  exactly the writes of this attempt took effect, and nobody has had a turn since. -/
  committed : ∀ a, outcome = .ok a → ∃ w t w',
    Shared.Collided others body s w.attempts w ∧
    (Shared.attempt others body Shared.view).runOn ({}, w) = (.ok a, (t, w')) ∧
    Store.Quiet others s w'.turns w'.store ∧
    (t.commit w'.store).1 = true ∧ after = { w' with store := (t.commit w'.store).2 } ∧
    w'.store.TookEffect (w.attemptWrites others body) after.store
  /-- Nothing was written if the last attempt failed, or if all attempts collided. -/
  failed : ∀ cause, outcome = .error cause →
    Store.Quiet others s after.turns after.store ∧
    ((∃ w t, Shared.Collided others body s w.attempts w ∧
      (Shared.attempt others body Shared.view).runOn ({}, w) = (.error cause, (t, after))) ∨
    cause = .failure .transactionCollided ∧ Shared.Collided others body s (retries + 1) after)

/-- However a transaction ends on a shared store, it is all or nothing. -/
theorem AllOrNothing.of_ended {α : Type} {others : Others} {body : Nat → Body α} {retries : Nat}
    {s : Store} {outcome : Except Interruption α} {after : Shared}
    (ended : Transaction.Ended Shared.part (Shared.attempt others body Shared.view) retries
      { store := s } (outcome, after)) :
    AllOrNothing others body retries s outcome after := by
  cases ended with
  | committed le collided ran went =>
      rename_i n w w' a t
      obtain ⟨rfl, attempts, quiet⟩ := Shared.Collided.attempt collided ran
      have wrote := Shared.went_attempt ran
      constructor
      case attempts_le => exact attempts ▸ Nat.succ_le_succ le
      case ends => simp
      case committed =>
        rintro a ⟨⟩
        refine ⟨w, t, w', collided, ran, quiet, went, rfl, ?_⟩
        exact Transaction.tookEffect_commit (Transaction.holds_nil.append wrote.buffers)
          (wrote.confined Transaction.confined_empty) went
      case failed =>
        rintro cause ⟨⟩
  | failed le collided ran =>
      rename_i n w cause t
      obtain ⟨rfl, attempts, quiet⟩ := Shared.Collided.attempt collided ran
      have ends := Shared.ends_attempt others body w
      rw [ran] at ends
      constructor
      case attempts_le => exact attempts ▸ Nat.succ_le_succ le
      case ends => exact ends
      case committed =>
        rintro a ⟨⟩
      case failed =>
        rintro cause ⟨⟩
        exact ⟨quiet, .inl ⟨w, t, collided, ran⟩⟩
  | collided collided =>
      have passed := Shared.passed_of_collisions collided
      constructor
      case attempts_le => simp [passed.attempts]
      case ends => simp
      case committed =>
        rintro a ⟨⟩
      case failed =>
        rintro cause ⟨⟩
        exact ⟨passed.quiet s (Store.chains_untouched.refl s), .inr ⟨rfl, collided⟩⟩

/-- Without a deadline, a transaction of a client of the memory store is all or nothing, whatever
its body does and whatever others do to the store between its steps. -/
theorem Client.allOrNothing {α : Type} (c : Client Shared Transaction) (retries : Nat)
    (memory : c.datastore = Store.datastore Shared.part retries)
    (unhurried : c.configuration.deadline = none) (others : Others) (body : Nat → Body α)
    (s : Store) :
    AllOrNothing others body retries s
      ((c.runInTransaction fun inner =>
        Shared.attempt others body inner.datastore.toStorage).runOn { store := s }).1
      ((c.runInTransaction fun inner =>
        Shared.attempt others body inner.datastore.toStorage).runOn { store := s }).2 := by
  rw [runOn_runInTransaction memory unhurried]
  apply AllOrNothing.of_ended
  exact Transaction.ended_run Shared.part (Shared.attempt others body Shared.view) retries _

/-- A client whose transactions are run at most twice. -/
def patient : Client Shared Transaction where
  datastore := Store.datastore Shared.part 1
  registry _ := {}
  moment := pure ⟨⟨.epoch, .midnight⟩, none⟩
  configuration := {}

/-- Looks an account up, puts it, and tells the number of the attempt. -/
def enrolling (n : Nat) : Body Nat :=
  .ask (.get [account "a"]) ⟨none, .strong⟩ fun _ =>
    .ask (.put [{ key := account "a" }]) ⟨none, .strong⟩ fun _ => .done (.ok n)

/-- Somebody deletes the account between the lookup and the put of the first attempt. -/
def meddling : Others :=
  fun turn s => if turn = 1 then s.delete [account "a"] else s

/-- The first attempt collides, and the second one commits. -/
theorem allOrNothing_enrolling :
    (patient.datastore = Store.datastore Shared.part 1 ∧
      patient.configuration.deadline = none) ∧
    (∃ after, (patient.runInTransaction fun inner =>
      Shared.attempt meddling enrolling inner.datastore.toStorage).runOn { store := {} } =
        (.ok 1, after) ∧ after.attempts = 2 ∧ after.store.records[account "a"]? ≠ none) ∧
    AllOrNothing meddling enrolling 1 {}
      ((patient.runInTransaction fun inner =>
        Shared.attempt meddling enrolling inner.datastore.toStorage).runOn { store := {} }).1
      ((patient.runInTransaction fun inner =>
        Shared.attempt meddling enrolling inner.datastore.toStorage).runOn { store := {} }).2 :=
  ⟨⟨rfl, rfl⟩, ⟨_, rfl, rfl, by decide⟩,
    patient.allOrNothing 1 rfl rfl meddling enrolling {}⟩

end EntityStore
