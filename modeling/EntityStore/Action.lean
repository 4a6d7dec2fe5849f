import EntityStore.Failure

/-!
# Actions

An action reads and changes a state, and answers, fails, overflows, or never ends.  What it has
changed stays changed when it does not answer.  An action on a part of a state is an action on the
whole.
-/

namespace EntityStore

/-- How an action can end without an answer. -/
inductive Interruption where
  | failure (cause : Failure)
  /-- A sum has left its range, which gives up the action and everything around it. -/
  | overflowed
  /-- The action never ends by itself. -/
  | stalled

/-- An action on a state `σ`. -/
abbrev Action (σ : Type) := ExceptT Interruption (StateM σ)

/-- A part of a state that can be read and replaced. -/
structure Part (σ τ : Type) where
  get : σ → τ
  set : τ → σ → σ

namespace Part

/-- The whole of a state. -/
def whole {σ : Type} : Part σ σ :=
  ⟨id, fun s _ => s⟩

/-- The second of two states. -/
def second {σ τ : Type} : Part (τ × σ) σ :=
  ⟨Prod.snd, fun s p => (p.1, s)⟩

/-- The part of a part. -/
def trans {σ τ υ : Type} (a : Part σ τ) (b : Part τ υ) : Part σ υ :=
  ⟨fun s => b.get (a.get s), fun u s => a.set (b.set u (a.get s)) s⟩

end Part

namespace Action

variable {σ τ α : Type}

/-- An action given by its effect on the state. -/
def ofFunction (f : σ → Except Interruption α × σ) : Action σ α :=
  ExceptT.mk (StateT.mk f)

/-- The outcome and the new state. -/
def runOn (x : Action σ α) (s : σ) : Except Interruption α × σ :=
  (ExceptT.run x).run s

/-- Fails with a cause. -/
def fail (cause : Failure) : Action σ α :=
  throw (.failure cause)

/-- Gives up because a sum has left its range. -/
def overflow : Action σ α :=
  throw .overflowed

/-- Never ends. -/
def stall : Action σ α :=
  throw .stalled

/-- A computation that uses no state. -/
def ofExcept : Except Failure α → Action σ α
  | .ok a => pure a
  | .error cause => fail cause

instance : MonadLift (Except Failure) (Action σ) :=
  ⟨ofExcept⟩

/-- Reads the state. -/
def read (f : σ → α) : Action σ α :=
  ofFunction fun s => (.ok (f s), s)

/-- Changes the state. -/
def update (f : σ → σ) : Action σ Unit :=
  ofFunction fun s => (.ok (), f s)

/-- An action on a part of the state. -/
def on (part : Part σ τ) (x : Action τ α) : Action σ α :=
  ofFunction fun s =>
    let (outcome, t) := x.runOn (part.get s)
    (outcome, part.set t s)

/-- The outcome of an action as an answer, a failure included; an action that overflows or never
ends still does so. -/
def attempt (x : Action σ α) : Action σ (Except Failure α) :=
  ofFunction fun s =>
    match x.runOn s with
    | (.ok a, s) => (.ok (.ok a), s)
    | (.error (.failure cause), s) => (.ok (.error cause), s)
    | (.error .overflowed, s) => (.error .overflowed, s)
    | (.error .stalled, s) => (.error .stalled, s)

/-- The deadline, if it passes during a wait. -/
def missed (deadline : Option Nat) : (wait : Nat) → Option Nat
  | 0 => none
  | wait + 1 => deadline.filter (· ≤ wait)

/-- An action that waits for its turn before it does anything.  If its deadline passes during the
wait, it fails and has done nothing; if it never ends by itself, it ends at the deadline. -/
def within (deadline : Option Nat) (x : Action σ α) (wait : Nat := 0) : Action σ α :=
  match missed deadline wait with
  | some milliseconds => fail (.deadlineExceeded milliseconds)
  | none =>
    ofFunction fun s =>
      match x.runOn s, deadline with
      | (.error .stalled, s), some milliseconds =>
        (.error (.failure (.deadlineExceeded milliseconds)), s)
      | outcome, _ => outcome

/-! ## What running an action gives -/

variable {β : Type}

@[simp]
theorem runOn_ofFunction (f : σ → Except Interruption α × σ) (s : σ) :
    (ofFunction f).runOn s = f s :=
  rfl

@[simp]
theorem runOn_pure (a : α) (s : σ) : (pure a : Action σ α).runOn s = (.ok a, s) :=
  rfl

@[simp]
theorem runOn_read (f : σ → α) (s : σ) : (read f).runOn s = (.ok (f s), s) :=
  rfl

@[simp]
theorem runOn_update (f : σ → σ) (s : σ) : (update f).runOn s = (.ok (), f s) :=
  rfl

@[simp]
theorem runOn_fail (cause : Failure) (s : σ) :
    (fail cause : Action σ α).runOn s = (.error (.failure cause), s) :=
  rfl

/-- The second action runs on the answer and the state of the first; it does not run after a
failure. -/
theorem runOn_bind (x : Action σ α) (f : α → Action σ β) (s : σ) :
    (x >>= f).runOn s =
      match x.runOn s with
      | (.ok a, s') => (f a).runOn s'
      | (.error e, s') => (.error e, s') := by
  simp only [runOn, ExceptT.run_bind, StateT.run_bind]
  rcases x.run.run s with ⟨answer | error, s'⟩ <;> rfl

/-- Two actions in a row answer only if both of them do. -/
theorem exists_of_runOn_bind {x : Action σ α} {f : α → Action σ β} {s s'' : σ} {b : β}
    (answered : (x >>= f).runOn s = (.ok b, s'')) :
    ∃ a s', x.runOn s = (.ok a, s') ∧ (f a).runOn s' = (.ok b, s'') := by
  rw [runOn_bind] at answered
  rcases first : x.runOn s with ⟨error | a, s'⟩
  · simp [first] at answered
  · rw [first] at answered
    exact ⟨a, s', rfl, answered⟩

@[simp]
theorem runOn_map (f : α → β) (x : Action σ α) (s : σ) :
    (f <$> x).runOn s = (((x.runOn s).1).map f, (x.runOn s).2) := by
  simp only [runOn, ExceptT.run_map, StateT.run_map]
  rfl

/-- An action that answers without changing the state does so for every item of a list. -/
theorem runOn_mapM {s : σ} {f : α → Action σ β} {g : α → β}
    (answers : ∀ a, (f a).runOn s = (.ok (g a), s)) (l : List α) :
    (l.mapM f).runOn s = (.ok (l.map g), s) := by
  induction l with
  | nil => rfl
  | cons a l ih =>
      rw [List.mapM_cons, runOn_bind, answers]
      simp only [runOn_bind, ih, runOn_pure, List.map_cons]

/-- Acting on the items of a list goes on after the first of them only if that one was answered. -/
theorem runOn_mapM_cons_snd (f : α → Action σ β) (a : α) (l : List α) (s : σ) :
    (((a :: l).mapM f).runOn s).2 =
      match (f a).runOn s with
      | (.ok _, s') => ((l.mapM f).runOn s').2
      | (.error _, s') => s' := by
  rw [List.mapM_cons, runOn_bind]
  rcases (f a).runOn s with ⟨_ | b, s'⟩
  · rfl
  · dsimp only
    rw [runOn_bind]
    rcases (l.mapM f).runOn s' with ⟨_ | bs, s''⟩ <;> rfl

@[simp]
theorem missed_zero (deadline : Option Nat) : missed deadline 0 = none :=
  rfl

theorem missed_eq_some_iff {deadline : Option Nat} {wait milliseconds : Nat} :
    missed deadline wait = some milliseconds ↔
      deadline = some milliseconds ∧ milliseconds < wait := by
  cases wait with
  | zero => simp [missed]
  | succ wait =>
    simp only [missed, Option.filter_eq_some_iff, decide_eq_true_eq, Nat.lt_succ_iff]

/-- Without a deadline it does not matter how long an action waits. -/
@[simp]
theorem runOn_within_none (x : Action σ α) (wait : Nat) (s : σ) :
    (within none x wait).runOn s = x.runOn s := by
  have inTime : missed none wait = none := by
    cases wait <;> rfl
  simp only [within, inTime, runOn_ofFunction]
  split
  · contradiction
  · rfl

/-- A deadline does not undo what an action has changed. -/
theorem runOn_within_snd (deadline : Option Nat) (x : Action σ α) (s : σ) :
    ((within deadline x).runOn s).2 = (x.runOn s).2 := by
  simp only [within, missed_zero, runOn_ofFunction]
  split
  · rename_i stalled
    rw [stalled]
  · rfl

end Action

end EntityStore
