import EntityStore.Client
import EntityStore.Store.Transaction

/-!
# Retries

A client of the memory store runs the body of a transaction until a commit goes through.  Such a run
is a number of collisions, runs whose commits were refused, and then a commit that goes through or a
failure of the body, unless all runs that are allowed collide.
-/

namespace EntityStore

namespace Transaction

variable {σ α : Type}

/-- Runs of a body, one after the other, whose commits were all refused. -/
inductive Collisions (part : Part σ Store) (body : Action (Transaction × σ) α) : Nat → σ → σ → Prop
  | none (s : σ) : Collisions part body 0 s s
  | next {n : Nat} {s s' s'' : σ} {a : α} {t : Transaction}
      (ran : body.runOn ({}, s) = (.ok a, (t, s')))
      (refused : (t.commit (part.get s')).1 = false)
      (rest : Collisions part body n (part.set (t.commit (part.get s')).2 s') s'') :
      Collisions part body (n + 1) s s''

/-- How running a body until it commits can end. -/
inductive Ended (part : Part σ Store) (body : Action (Transaction × σ) α) (retries : Nat) (s : σ) :
    Except Interruption α × σ → Prop
  | committed {n : Nat} {s' s'' : σ} {a : α} {t : Transaction} (le : n ≤ retries)
      (collisions : Collisions part body n s s') (ran : body.runOn ({}, s') = (.ok a, (t, s'')))
      (went : (t.commit (part.get s'')).1 = true) :
      Ended part body retries s (.ok a, part.set (t.commit (part.get s'')).2 s'')
  | failed {n : Nat} {s' s'' : σ} {cause : Interruption} {t : Transaction} (le : n ≤ retries)
      (collisions : Collisions part body n s s')
      (ran : body.runOn ({}, s') = (.error cause, (t, s''))) :
      Ended part body retries s (.error cause, s'')
  | collided {s' : σ} (collisions : Collisions part body (retries + 1) s s') :
      Ended part body retries s (.error (.failure .transactionCollided), s')

variable {part : Part σ Store} {body : Action (Transaction × σ) α}

/-- A collision before a run with one retry less. -/
theorem Ended.after_collision {retries : Nat} {s s' : σ} {a : α} {t : Transaction}
    {ending : Except Interruption α × σ} (ran : body.runOn ({}, s) = (.ok a, (t, s')))
    (refused : (t.commit (part.get s')).1 = false)
    (ended : Ended part body retries (part.set (t.commit (part.get s')).2 s') ending) :
    Ended part body (retries + 1) s ending := by
  cases ended with
  | committed le collisions ran' went =>
      exact .committed (Nat.succ_le_succ le) (.next ran refused collisions) ran' went
  | failed le collisions ran' =>
      exact .failed (Nat.succ_le_succ le) (.next ran refused collisions) ran'
  | collided collisions => exact .collided (.next ran refused collisions)

theorem ended_run (part : Part σ Store) (body : Action (Transaction × σ) α) (retries : Nat)
    (s : σ) : Ended part body retries s ((run part body retries).runOn s) := by
  induction retries generalizing s with
  | zero =>
      rw [run, Action.runOn_bind, runOnce, Action.runOn_ofFunction]
      rcases ran : body.runOn ({}, s) with ⟨cause | a, t, s'⟩
      · exact .failed (Nat.le_refl 0) (.none s) ran
      · dsimp only
        cases went : (t.commit (part.get s')).1 with
        | true => exact .committed (Nat.le_refl 0) (.none s) ran went
        | false => exact .collided (.next ran went (.none _))
  | succ retries ih =>
      rw [run, Action.runOn_bind, runOnce, Action.runOn_ofFunction]
      rcases ran : body.runOn ({}, s) with ⟨cause | a, t, s'⟩
      · exact .failed (Nat.zero_le _) (.none s) ran
      · dsimp only
        cases went : (t.commit (part.get s')).1 with
        | true => exact .committed (Nat.zero_le _) (.none s) ran went
        | false => exact (ih _).after_collision ran went

end Transaction

/-- Without a deadline, a client runs the body of a transaction as often as the store allows. -/
theorem Client.runOn_runInTransaction {σ α : Type} {c : Client σ Transaction} {part : Part σ Store}
    {retries : Nat} (memory : c.datastore = Store.datastore part retries)
    (unhurried : c.configuration.deadline = none)
    (body : Client (Transaction × σ) Empty → Action (Transaction × σ) α) (s : σ) :
    (c.runInTransaction body).runOn s =
      (Transaction.run part (body (c.inside (Transaction.storage.on (Transaction.partOf part))))
        retries).runOn s := by
  simp only [runInTransaction, memory, Store.datastore, options, unhurried,
    Configuration.callOptions, Action.runOn_bind, Action.runOn_within_none, Action.runOn_map]
  generalize (Transaction.run part _ retries).runOn s = ended
  rcases ended with ⟨cause | a, s'⟩
  · cases cause <;> rfl
  · rfl

end EntityStore
