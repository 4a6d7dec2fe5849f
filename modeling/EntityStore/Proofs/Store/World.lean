import EntityStore.Proofs.Store.Attempt

/-!
# Interleaved transactions

A world is a memory store with any number of transactions that work on it.  Each event is one call,
outside of transactions or inside one of them, or one commit, and events follow each other in any
order.  Along every run versions grow, a pin stays as it is, and no pinned version is ahead of its
group.  So when the version of a group is found unchanged, nobody wrote to the group.
-/

namespace EntityStore

/-- A call to a store. -/
inductive Call where
  | get (keys : List Key)
  | put (es : List Entity)
  | delete (keys : List Key)
  | allocateIds (key : Key) (count : Nat)
  | runQuery (q : PrimitiveQuery) (window : Window)
  | count (q : PrimitiveQuery) (limit : Option UInt64)

/-- Makes the call, and leaves its answer aside. -/
def Call.perform {σ : Type} (storage : Storage σ) (options : CallOptions) : Call → Action σ Unit
  | .get keys => (fun _ => ()) <$> storage.get keys options
  | .put es => (fun _ => ()) <$> storage.put es options
  | .delete keys => storage.delete keys options
  | .allocateIds key size => (fun _ => ()) <$> storage.allocateIds key size options
  | .runQuery q window => (fun _ => ()) <$> storage.runQuery q window options
  | .count q limit => (fun _ => ()) <$> storage.count q limit options

/-- A call outside of transactions moves the store on. -/
theorem Store.keeps_perform (options : CallOptions) (call : Call) :
    Action.Keeps Advances (call.perform storage options) := by
  cases call with
  | get keys =>
      exact Action.keeps_map _ (Action.keeps_within _ (Action.keeps_read chains_advances _))
  | put es =>
      exact Action.keeps_map _
        (Action.keeps_within _ (Action.keeps_mapM chains_advances keeps_putOne es))
  | delete keys =>
      rw [Call.perform, storage]
      exact Action.keeps_within _ fun s => s.advances_delete keys
  | allocateIds key count =>
      exact Action.keeps_map _
        (Action.keeps_within _ ((keeps_allocate count).imp Untouched.advances))
  | runQuery q window =>
      exact Action.keeps_map _ (Action.keeps_within _ (Action.keeps_read chains_advances _))
  | count q limit =>
      exact Action.keeps_map _ (Action.keeps_within _ (Action.keeps_read chains_advances _))

/-- A call inside a transaction goes on with the transaction. -/
theorem Transaction.keeps_perform (options : CallOptions) (call : Call) :
    Action.Keeps Continues (call.perform storage options) := by
  cases call with
  | get keys => exact Action.keeps_map _ (Action.keeps_mapM chains_continues keeps_getOne keys)
  | put es => exact Action.keeps_map _ (Action.keeps_mapM chains_continues keeps_putOne es)
  | delete keys =>
      exact Action.keeps_forM chains_continues (fun key => keeps_writeOne key none) keys
  | allocateIds key count =>
      exact Action.keeps_map _ (keeps_on_second (Store.keeps_allocate count))
  | runQuery q window =>
      apply Action.keeps_map
      apply Action.keeps_bind chains_continues (keeps_enterQuery q)
      intro _
      exact Action.keeps_read chains_continues _
  | count q limit =>
      apply Action.keeps_map
      apply Action.keeps_bind chains_continues (keeps_enterQuery q)
      intro _
      exact Action.keeps_read chains_continues _

/-- A memory store and the transactions that work on it. -/
structure World where
  store : Store
  transactions : Nat → Transaction

/-- What can happen next. -/
inductive Event where
  /-- A call outside of transactions. -/
  | direct (call : Call) (options : CallOptions)
  /-- A call inside the `i`-th transaction. -/
  | inside (i : Nat) (call : Call) (options : CallOptions)
  | commit (i : Nat)

namespace World

/-- A store before any transaction has begun. -/
def ofStore (s : Store) : World :=
  ⟨s, fun _ => {}⟩

/-- The `i`-th transaction and the store. -/
def view (w : World) (i : Nat) : Transaction.OnStore :=
  (w.transactions i, w.store)

/-- The world after the `i`-th transaction and the store have changed. -/
def change (w : World) (i : Nat) (state : Transaction.OnStore) : World where
  store := state.2
  transactions j := if j = i then state.1 else w.transactions j

theorem transactions_change_self (w : World) (i : Nat) (state : Transaction.OnStore) :
    (w.change i state).transactions i = state.1 :=
  if_pos rfl

theorem transactions_change_of_ne (w : World) {i j : Nat} (other : j ≠ i)
    (state : Transaction.OnStore) : (w.change i state).transactions j = w.transactions j :=
  if_neg other

/-- The world after one event. -/
def step (w : World) : Event → World
  | .direct call options =>
    { w with store := ((call.perform Store.storage options).runOn w.store).2 }
  | .inside i call options =>
    w.change i ((call.perform Transaction.storage options).runOn (w.view i)).2
  | .commit i => { w with store := ((w.transactions i).commit w.store).2 }

/-- The world after some events. -/
def run (w : World) (events : List Event) : World :=
  events.foldl step w

/-- Whether the `i`-th transaction has pinned a group. -/
def Pinned (w : World) (i : Nat) (group : Key) : Prop :=
  (w.transactions i).group = some group

/-- What holds in every world that a run leads to: buffered keys lie in the pinned group, and no
pinned version is ahead of its group. -/
structure Sound (w : World) : Prop where
  confined : ∀ i, (w.transactions i).Confined
  version_le : ∀ i group, w.Pinned i group → (w.transactions i).version ≤ w.store.version group

/-- A world and a later one. -/
structure Later (w w' : World) : Prop where
  advances : w.store.Advances w'.store
  keeps_pin : ∀ i group, w.Pinned i group →
    w'.Pinned i group ∧ (w'.transactions i).version = (w.transactions i).version

theorem chains_later : Chains Later where
  refl w := ⟨Store.chains_advances.refl w.store, fun i group pinned => ⟨pinned, rfl⟩⟩
  trans first second := {
    advances := Store.chains_advances.trans first.advances second.advances
    keeps_pin := by
      intro i group pinned
      obtain ⟨pinned', version⟩ := first.keeps_pin i group pinned
      obtain ⟨pinned'', version'⟩ := second.keeps_pin i group pinned'
      exact ⟨pinned'', version'.trans version⟩ }

theorem sound_ofStore (s : Store) : Sound (ofStore s) where
  confined i key buffered := absurd buffered Std.ExtTreeMap.not_mem_empty
  version_le i group pinned := by
    contradiction

/-- When only the store moves on, pins stay where they are. -/
theorem Sound.of_advances {w : World} (sound : w.Sound) {s : Store}
    (advances : w.store.Advances s) :
    Sound { w with store := s } ∧ w.Later { w with store := s } := by
  constructor
  · constructor
    · exact sound.confined
    · intro i group pinned
      exact Nat.le_trans (sound.version_le i group pinned) (advances.version_le group)
  · exact ⟨advances, fun i group pinned => ⟨pinned, rfl⟩⟩

/-- When one transaction goes on, the others stay as they are. -/
theorem Sound.of_continues {w : World} (sound : w.Sound) {i : Nat} {state : Transaction.OnStore}
    (continues : Transaction.Continues (w.view i) state) :
    (w.change i state).Sound ∧ w.Later (w.change i state) := by
  have versions := continues.untouched.version_eq
  constructor
  · constructor
    · intro j
      rcases Decidable.em (j = i) with rfl | other
      · rw [transactions_change_self]
        exact continues.confined (sound.confined j)
      · rw [transactions_change_of_ne w other]
        exact sound.confined j
    · intro j group pinned
      change _ ≤ state.2.version group
      rw [versions group]
      rw [Pinned] at pinned
      rcases Decidable.em (j = i) with rfl | other
      · rw [transactions_change_self] at pinned ⊢
        cases before : (w.transactions j).group with
        | none => exact Nat.le_of_eq (continues.pins_current group before pinned)
        | some own =>
            obtain ⟨kept, version⟩ := continues.keeps_pin own before
            cases kept.symm.trans pinned
            rw [version]
            exact sound.version_le j group before
      · rw [transactions_change_of_ne w other] at pinned ⊢
        exact sound.version_le j group pinned
  · constructor
    · exact continues.untouched.advances
    · intro j group pinned
      rw [Pinned]
      rcases Decidable.em (j = i) with rfl | other
      · rw [transactions_change_self]
        exact continues.keeps_pin group pinned
      · rw [transactions_change_of_ne w other]
        exact ⟨pinned, rfl⟩

/-- Every event leads from a sound world to a sound and later one. -/
theorem Sound.step {w : World} (sound : w.Sound) (e : Event) :
    (w.step e).Sound ∧ w.Later (w.step e) := by
  cases e with
  | direct call options => exact sound.of_advances (Store.keeps_perform options call w.store)
  | inside i call options =>
      exact sound.of_continues (Transaction.keeps_perform options call (w.view i))
  | commit i => exact sound.of_advances (Transaction.advances_commit (sound.confined i) w.store)

/-- Every run leads from a sound world to a sound and later one. -/
theorem Sound.run {w : World} (sound : w.Sound) (events : List Event) :
    (w.run events).Sound ∧ w.Later (w.run events) := by
  induction events generalizing w with
  | nil => exact ⟨sound, chains_later.refl w⟩
  | cons e events ih =>
      obtain ⟨sound', later⟩ := sound.step e
      obtain ⟨sound'', later'⟩ := ih sound'
      exact ⟨sound'', chains_later.trans later later'⟩

theorem run_append (w : World) (before after : List Event) :
    w.run (before ++ after) = (w.run before).run after :=
  List.foldl_append

theorem run_cons (w : World) (e : Event) (events : List Event) :
    w.run (e :: events) = (w.step e).run events :=
  rfl

/-- A pin has a moment: one event of the run sets it. -/
theorem exists_pin {w : World} {i : Nat} (unpinned : (w.transactions i).group = none)
    {events : List Event} (sound : w.Sound) {group : Key}
    (pinned : (w.run events).Pinned i group) :
    ∃ before e after, events = before ++ e :: after ∧
      ((w.run before).transactions i).group = none ∧ ((w.run before).step e).Pinned i group := by
  induction events generalizing w with
  | nil => exact absurd (unpinned.symm.trans pinned) (by simp)
  | cons e events ih =>
      cases next : ((w.step e).transactions i).group with
      | none =>
          obtain ⟨before, e', after, split, unpinned', pinned'⟩ :=
            ih next (sound.step e).1 pinned
          exact ⟨e :: before, e', after, by rw [split, List.cons_append], unpinned', pinned'⟩
      | some own =>
          have kept := (((sound.step e).1.run events).2.keeps_pin i own next).1
          cases kept.symm.trans pinned
          exact ⟨[], e, events, rfl, unpinned, next⟩

/-- An event after which a group is pinned was an event under the pin, or it touched neither
records nor versions. -/
theorem pinned_or_untouched {w : World} {e : Event} {i : Nat} {group : Key}
    (pinned : (w.step e).Pinned i group) :
    w.Pinned i group ∨ w.store.Untouched (w.step e).store := by
  cases e with
  | direct call options => exact .inl pinned
  | inside j call options =>
      exact .inr (Transaction.keeps_perform options call (w.view j)).untouched
  | commit j => exact .inl pinned

/-- While a pinned version still stands at the end of a run, the group is as it was when the run
began. -/
theorem Sound.version_eq {w : World} (sound : w.Sound) {events : List Event} {i : Nat} {group : Key}
    (pinned : w.Pinned i group)
    (current : (w.run events).store.version group = ((w.run events).transactions i).version) :
    (w.run events).store.version group = w.store.version group := by
  obtain ⟨_, later⟩ := sound.run events
  have behind := sound.version_le i group pinned
  have grown := later.advances.version_le group
  rw [(later.keeps_pin i group pinned).2] at current
  omega

end World

end EntityStore
