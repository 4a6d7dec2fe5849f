import EntityStore.Action

/-!
# Actions along a relation

An action moves the state along a relation when the states before and after it are related, even
if it fails.  When the relation is reflexive and transitive, actions put together from such actions
do the same.  Acting on the items of a list stops at the first failure: the items before it have
been answered, and what they did can be logged item by item.
-/

namespace EntityStore

/-- A relation that every state has to itself and that goes on from step to step. -/
structure Chains {σ : Type} (R : σ → σ → Prop) : Prop where
  refl : ∀ s, R s s
  trans : ∀ {s s' s''}, R s s' → R s' s'' → R s s''

namespace Action

variable {σ α β : Type} {R : σ → σ → Prop}

/-- A computation that uses no state leaves it as it is. -/
theorem runOn_lift (x : Except Failure α) (s : σ) :
    (liftM x : Action σ α).runOn s = (x.mapError .failure, s) := by
  cases x <;> rfl

theorem eq_ok_of_runOn_lift {x : Except Failure α} {a : α} {s s' : σ}
    (answered : (liftM x : Action σ α).runOn s = (.ok a, s')) : x = .ok a ∧ s' = s := by
  rw [runOn_lift] at answered
  cases x <;> cases answered
  exact ⟨rfl, rfl⟩

/-- Whether an action moves every state along a relation. -/
def Keeps (R : σ → σ → Prop) (x : Action σ α) : Prop :=
  ∀ s, R s (x.runOn s).2

theorem Keeps.imp {R' : σ → σ → Prop} {x : Action σ α} (keeps : Keeps R x)
    (weaker : ∀ {s s'}, R s s' → R' s s') : Keeps R' x := by
  intro s
  exact weaker (keeps s)

theorem keeps_pure (chains : Chains R) (a : α) : Keeps R (pure a : Action σ α) := by
  intro s
  exact chains.refl s

theorem keeps_fail (chains : Chains R) (cause : Failure) :
    Keeps R (fail cause : Action σ α) := by
  intro s
  exact chains.refl s

theorem keeps_overflow (chains : Chains R) : Keeps R (overflow : Action σ α) := by
  intro s
  exact chains.refl s

theorem keeps_read (chains : Chains R) (f : σ → α) : Keeps R (read f) := by
  intro s
  exact chains.refl s

theorem keeps_map {x : Action σ α} (f : α → β) (keeps : Keeps R x) : Keeps R (f <$> x) := by
  intro s
  rw [runOn_map]
  exact keeps s

theorem keeps_bind (chains : Chains R) {x : Action σ α} {f : α → Action σ β} (first : Keeps R x)
    (second : ∀ a, Keeps R (f a)) : Keeps R (x >>= f) := by
  intro s
  have moved := first s
  rw [runOn_bind]
  rcases ran : x.runOn s with ⟨error | a, s'⟩
  · rw [ran] at moved
    exact moved
  · rw [ran] at moved
    exact chains.trans moved (second a s')

theorem keeps_mapM (chains : Chains R) {f : α → Action σ β} (each : ∀ a, Keeps R (f a))
    (l : List α) : Keeps R (l.mapM f) := by
  induction l with
  | nil => exact keeps_pure chains []
  | cons a l ih =>
      rw [List.mapM_cons]
      apply keeps_bind chains (each a)
      intro b
      exact keeps_bind chains ih fun bs => keeps_pure chains (b :: bs)

theorem keeps_forM (chains : Chains R) {f : α → Action σ Unit} (each : ∀ a, Keeps R (f a))
    (l : List α) : Keeps R (l.forM f) := by
  induction l with
  | nil => exact keeps_pure chains ()
  | cons a l ih => exact keeps_bind chains (each a) fun _ => ih

theorem keeps_within {x : Action σ α} (deadline : Option Nat) (keeps : Keeps R x) :
    Keeps R (within deadline x) := by
  intro s
  rw [runOn_within_snd]
  exact keeps s

/-- A failure that is taken as an answer has changed the state all the same. -/
theorem runOn_attempt_snd (x : Action σ α) (s : σ) :
    ((attempt x).runOn s).2 = (x.runOn s).2 := by
  rw [attempt, runOn_ofFunction]
  rcases x.runOn s with ⟨cause | a, s'⟩
  · cases cause <;> rfl
  · rfl

/-! ## Ends -/

/-- Whether an action ends by itself, with an answer or with a failure. -/
def Ends (x : Action σ α) : Prop :=
  ∀ s, (x.runOn s).1 ≠ .error .stalled

theorem ends_pure (a : α) : Ends (pure a : Action σ α) := by
  intro s
  simp

theorem ends_fail (cause : Failure) : Ends (fail cause : Action σ α) := by
  intro s
  simp

theorem ends_read (f : σ → α) : Ends (read f) := by
  intro s
  simp

theorem ends_update (f : σ → σ) : Ends (update f) := by
  intro s
  simp

theorem ends_bind {x : Action σ α} {f : α → Action σ β} (first : Ends x)
    (second : ∀ a, Ends (f a)) : Ends (x >>= f) := by
  intro s
  have ended := first s
  rw [runOn_bind]
  rcases ran : x.runOn s with ⟨error | a, s'⟩
  · rw [ran] at ended
    simpa using ended
  · exact second a s'

theorem ends_mapM {f : α → Action σ β} (each : ∀ a, Ends (f a)) (l : List α) :
    Ends (l.mapM f) := by
  induction l with
  | nil => exact ends_pure []
  | cons a l ih =>
      rw [List.mapM_cons]
      exact ends_bind (each a) fun b => ends_bind ih fun bs => ends_pure (b :: bs)

theorem ends_forM {f : α → Action σ Unit} (each : ∀ a, Ends (f a)) (l : List α) :
    Ends (l.forM f) := by
  induction l with
  | nil => exact ends_pure ()
  | cons a l ih => exact ends_bind (each a) fun _ => ih

theorem ends_on {τ : Type} (part : Part τ σ) {x : Action σ α} (ends : Ends x) :
    Ends (on part x) := by
  intro s
  exact ends (part.get s)

theorem Ends.attempt {x : Action σ α} (ends : Ends x) : Ends (attempt x) := by
  intro s
  have ended := ends s
  rw [Action.attempt, runOn_ofFunction]
  rcases ran : x.runOn s with ⟨cause | a, s'⟩
  · rw [ran] at ended
    cases cause with
    | failure cause => simp
    | overflowed => simp
    | stalled => contradiction
  · simp

/-- No deadline comes into play for an action that ends by itself and does not wait. -/
theorem Ends.runOn_within {x : Action σ α} (ends : Ends x) (deadline : Option Nat) (s : σ) :
    (within deadline x).runOn s = x.runOn s := by
  have ended := ends s
  simp only [within, missed_zero, runOn_ofFunction]
  rcases ran : x.runOn s with ⟨cause | a, s'⟩
  · rw [ran] at ended
    cases cause with
    | failure cause => rfl
    | overflowed => rfl
    | stalled => contradiction
  · rfl

/-- An action that ends by itself fails at its deadline if that passes during the wait, and has done
nothing then; otherwise it is as if there were no deadline. -/
theorem Ends.runOn_within_eq {x : Action σ α} (ends : Ends x) (deadline : Option Nat) (wait : Nat)
    (s : σ) :
    (within deadline x wait).runOn s =
      match missed deadline wait with
      | some milliseconds => (.error (.failure (.deadlineExceeded milliseconds)), s)
      | none => x.runOn s := by
  rw [← ends.runOn_within deadline s]
  simp only [within, missed_zero]
  cases missed deadline wait <;> rfl

/-! ## Failures -/

/-- Two actions in a row fail if the first one does, or if the second one does after it. -/
theorem failed_of_runOn_bind {x : Action σ α} {f : α → Action σ β} {s s' : σ} {e : Interruption}
    (failed : (x >>= f).runOn s = (.error e, s')) :
    x.runOn s = (.error e, s') ∨
      ∃ a s₁, x.runOn s = (.ok a, s₁) ∧ (f a).runOn s₁ = (.error e, s') := by
  rw [runOn_bind] at failed
  rcases first : x.runOn s with ⟨error | a, s₁⟩
  · rw [first] at failed
    cases failed
    exact .inl rfl
  · rw [first] at failed
    exact .inr ⟨a, s₁, rfl, failed⟩

/-! ## Lists of actions -/

/-- The items of a list that are answered before the first failure, with their answers. -/
def answered (f : α → Action σ β) : List α → σ → List (α × β)
  | [], _ => []
  | a :: l, s =>
    match (f a).runOn s with
    | (.ok b, s') => (a, b) :: answered f l s'
    | (.error _, _) => []

theorem answered_eq_zip {f : α → Action σ β} {l : List α} {s s' : σ} {bs : List β}
    (all : (l.mapM f).runOn s = (.ok bs, s')) : answered f l s = l.zip bs := by
  induction l generalizing s bs with
  | nil => rfl
  | cons a l ih =>
      rw [List.mapM_cons] at all
      obtain ⟨b, s₁, first, all⟩ := exists_of_runOn_bind all
      obtain ⟨bs', s₂, rest, all⟩ := exists_of_runOn_bind all
      cases all
      simp only [answered, first, ih rest, List.zip_cons_cons]

theorem length_of_runOn_mapM {f : α → Action σ β} {l : List α} {s s' : σ} {bs : List β}
    (all : (l.mapM f).runOn s = (.ok bs, s')) : bs.length = l.length := by
  induction l generalizing s bs with
  | nil =>
      cases all
      rfl
  | cons a l ih =>
      rw [List.mapM_cons] at all
      obtain ⟨b, s₁, _, all⟩ := exists_of_runOn_bind all
      obtain ⟨bs', s₂, rest, all⟩ := exists_of_runOn_bind all
      cases all
      rw [List.length_cons, List.length_cons, ih rest]

/-- Every item of an answered list has been answered, in its place. -/
theorem getElem?_of_runOn_mapM {f : α → Action σ β} {l : List α} {s s' : σ} {bs : List β}
    (all : (l.mapM f).runOn s = (.ok bs, s')) {i : Nat} {a : α} (listed : l[i]? = some a) :
    ∃ b s₁ s₂, bs[i]? = some b ∧ (f a).runOn s₁ = (.ok b, s₂) := by
  induction l generalizing s bs i with
  | nil => simp at listed
  | cons first l inductionHypothesis =>
      rw [List.mapM_cons] at all
      rcases exists_of_runOn_bind all with ⟨b, s₁, answered, all⟩
      rcases exists_of_runOn_bind all with ⟨bs', s₂, rest, all⟩
      cases all
      cases i with
      | zero =>
          cases listed
          exact ⟨b, s, s₁, rfl, answered⟩
      | succ i => exact inductionHypothesis rest listed

/-- Acting on the items of a list fails at one of them: those before it are answered, and those
after it are left alone. -/
theorem exists_of_runOn_mapM_error {f : α → Action σ β} {l : List α} {s s' : σ} {e : Interruption}
    (failed : (l.mapM f).runOn s = (.error e, s')) :
    ∃ done a rest bs s₁, l = done ++ a :: rest ∧ (done.mapM f).runOn s = (.ok bs, s₁) ∧
      (f a).runOn s₁ = (.error e, s') := by
  induction l generalizing s with
  | nil => cases failed
  | cons a l ih =>
      rw [List.mapM_cons] at failed
      rcases failed_of_runOn_bind failed with first | ⟨b, s₁, first, failed⟩
      · exact ⟨[], a, l, [], s, rfl, rfl, first⟩
      · rcases failed_of_runOn_bind failed with remaining | ⟨bs, s₂, _, failed⟩
        · obtain ⟨done, a', rest, bs, s₂, rfl, answers, fails⟩ := ih remaining
          refine ⟨a :: done, a', rest, b :: bs, s₂, rfl, ?_, fails⟩
          simp only [List.mapM_cons, runOn_bind, first, answers, runOn_pure]
        · cases failed

/-- Whether acting on the items of a list comes to an item, and the state at that moment. -/
inductive Reaches (f : α → Action σ β) : List α → σ → α → σ → Prop where
  | first {a : α} {l : List α} {s : σ} : Reaches f (a :: l) s a s
  | later {a a' : α} {l : List α} {s s₁ s' : σ} {b : β} (answered : (f a).runOn s = (.ok b, s₁))
      (reaches : Reaches f l s₁ a' s') : Reaches f (a :: l) s a' s'

theorem Reaches.mem {f : α → Action σ β} {l : List α} {s s' : σ} {a : α}
    (reaches : Reaches f l s a s') : a ∈ l := by
  induction reaches with
  | first => exact List.mem_cons_self
  | later _ _ inductionHypothesis => exact List.mem_cons_of_mem _ inductionHypothesis

/-- What every item keeps when it is reached holds each time an item is reached, and in the end. -/
theorem invariant_mapM (Holds : σ → Prop) {f : α → Action σ β} {l : List α} {s : σ}
    (each : ∀ a s', Reaches f l s a s' → Holds s' → Holds ((f a).runOn s').2) (holds : Holds s) :
    Holds ((l.mapM f).runOn s).2 ∧ ∀ a s', Reaches f l s a s' → Holds s' := by
  induction l generalizing s with
  | nil => exact ⟨holds, fun _ _ reaches => nomatch reaches⟩
  | cons a l inductionHypothesis =>
      have kept := each a s .first holds
      rw [runOn_mapM_cons_snd]
      rcases ran : (f a).runOn s with ⟨error | b, s₁⟩
      · rw [ran] at kept
        refine ⟨kept, ?_⟩
        intro a' s' reaches
        cases reaches with
        | first => exact holds
        | later answered _ => cases ran.symm.trans answered
      · rw [ran] at kept
        rcases inductionHypothesis (fun a' s' reaches => each a' s' (.later ran reaches)) kept with
          ⟨final, between⟩
        refine ⟨final, ?_⟩
        intro a' s' reaches
        cases reaches with
        | first => exact holds
        | later answered reaches =>
            cases ran.symm.trans answered
            exact between a' s' reaches

/-- Acting on the items of a list one after the other ends in the same state whether or not the
answers are kept. -/
theorem runOn_forM_snd (f : α → Action σ Unit) (l : List α) (s : σ) :
    ((l.forM f).runOn s).2 = ((l.mapM f).runOn s).2 := by
  induction l generalizing s with
  | nil => rfl
  | cons a l ih =>
      change ((f a >>= fun _ => l.forM f).runOn s).2 = _
      rw [runOn_bind, runOn_mapM_cons_snd]
      rcases (f a).runOn s with ⟨_ | _, s'⟩
      · rfl
      · exact ih s'

end Action

/-- A relation between states that a log accounts for. -/
structure Logs {σ γ : Type} (W : List γ → σ → σ → Prop) : Prop where
  refl : ∀ s, W [] s s
  append : ∀ {l l' s s' s''}, W l s s' → W l' s' s'' → W (l ++ l') s s''

/-- When each item is logged as it is answered, the log of a list is that of its answered items. -/
theorem Logs.mapM {σ α β γ : Type} {W : List γ → σ → σ → Prop} (logs : Logs W)
    {f : α → Action σ β} {entry : α × β → γ}
    (answers : ∀ {a s b s'}, (f a).runOn s = (.ok b, s') → W [entry (a, b)] s s')
    (fails : ∀ {a s e s'}, (f a).runOn s = (.error e, s') → W [] s s') (l : List α) (s : σ) :
    W ((Action.answered f l s).map entry) s ((l.mapM f).runOn s).2 := by
  induction l generalizing s with
  | nil => exact logs.refl s
  | cons a l ih =>
      rw [Action.answered, Action.runOn_mapM_cons_snd]
      rcases ran : (f a).runOn s with ⟨error | b, s'⟩
      · exact fails ran
      · exact logs.append (answers ran) (ih s')

end EntityStore
