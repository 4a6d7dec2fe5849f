import EntityStore.Proofs.Store.Ids

/-!
# Writes

A write stores a record under its own key or removes the record of a key, and of several writes of
one key the last one counts.  A put writes the records before the first one that it cannot put, be
it to the store or into the buffer of a transaction.  A commit that goes through makes all buffered
writes take effect, with one move of the version of their group.
-/

namespace EntityStore

/-- A write of a record or of a deletion. -/
inductive Write where
  /-- The record is stored under its own key. -/
  | record (e : Entity)
  | removal (key : Key)

namespace Write

/-- The key that is written to. -/
def key : Write → Key
  | record e => e.key
  | removal key => key

/-- What is stored under the key afterwards. -/
def left : Write → Option Entity
  | record e => some e
  | removal _ => none

/-- What putting a record under its completed key writes. -/
def ofPut (put : Entity × Key) : Write :=
  record { put.1 with key := put.2 }

/-- What the last write of a key leaves, if the key is written at all. -/
def last : List Write → Key → Option (Option Entity)
  | [], _ => none
  | write :: later, key => (last later key).or (if write.key = key then some write.left else none)

theorem last_append (earlier later : List Write) (key : Key) :
    last (earlier ++ later) key = (last later key).or (last earlier key) := by
  induction earlier with
  | nil => simp [last]
  | cons write earlier ih => rw [List.cons_append, last, last, ih, Option.or_assoc]

theorem last_singleton (write : Write) (key : Key) :
    last [write] key = if write.key = key then some write.left else none := by
  simp [last]

theorem last_isSome_iff {writes : List Write} {key : Key} :
    (last writes key).isSome ↔ ∃ write ∈ writes, write.key = key := by
  induction writes with
  | nil => simp [last]
  | cons write later ih =>
      rw [last, Option.isSome_or, Bool.or_eq_true, ih]
      by_cases same : write.key = key
      · simp [same]
      · simp [same]

/-- A write leaves records under their own keys. -/
theorem key_of_last {writes : List Write} {key : Key} {e : Entity}
    (left : last writes key = some (some e)) : e.key = key := by
  induction writes with
  | nil => cases left
  | cons write later ih =>
      rw [last, Option.or_eq_some_iff] at left
      rcases left with found | ⟨_, found⟩
      · exact ih found
      · split at found
        · rename_i same
          cases write with
          | record e' =>
              cases found
              exact same
          | removal key => cases found
        · cases found

end Write

namespace Store

/-- A store and the same after some writes, one after the other. -/
structure Wrote (writes : List Write) (s s' : Store) : Prop where
  record : ∀ key, s'.records[key]? = (Write.last writes key).getD s.records[key]?
  version : ∀ group, s'.version group =
    s.version group + writes.countP fun write => decide (write.key.root = group)

theorem Untouched.wrote {s s' : Store} (untouched : Untouched s s') : Wrote [] s s' where
  record key := by rw [untouched.records]; rfl
  version group := by rw [untouched.version_eq]; rfl

theorem logs_wrote : Logs Wrote where
  refl s := (chains_untouched.refl s).wrote
  append first second := {
    record := by
      intro key
      rw [second.record, first.record, Write.last_append]
      cases Write.last _ key <;> rfl
    version := by
      intro group
      rw [second.version, first.version, List.countP_append, Nat.add_assoc] }

theorem wrote_write (write : Write) (s : Store) :
    Wrote [write] s (s.write write.key write.left) where
  record key := by
    rw [getElem?_write, Write.last_singleton]
    split
    · cases write <;> rfl
    · rfl
  version group := by
    rw [version_write, List.countP_singleton]
    by_cases same : write.key.root = group
    · simp [same]
    · simp [same]

/-- A put of one record that is not answered fails to complete the key. -/
theorem complete_of_putOne_error {e : Entity} {s s' : Store} {cause : Interruption}
    (failed : (putOne e).runOn s = (.error cause, s')) :
    (complete e.key).runOn s = (.error cause, s) ∧ s' = s := by
  rcases Action.failed_of_runOn_bind failed with incomplete | ⟨key, s₁, _, failed⟩
  · obtain rfl := eq_of_complete_error incomplete
    exact ⟨incomplete, rfl⟩
  · cases failed

theorem wrote_of_putOne {e : Entity} {s s' : Store} {key : Key}
    (answered : (putOne e).runOn s = (.ok key, s')) : Wrote [.ofPut (e, key)] s s' := by
  rw [putOne, Action.runOn_bind] at answered
  have untouched := keeps_complete e.key s
  rcases completed : (complete e.key).runOn s with ⟨error | key', s''⟩
  · simp [completed] at answered
  · rw [completed] at answered untouched
    cases answered
    exact logs_wrote.append untouched.wrote (wrote_write (.ofPut (e, key)) s'')

theorem complete_of_putOne {e : Entity} {key : Key} {s s' : Store}
    (answered : (putOne e).runOn s = (.ok key, s')) :
    ∃ s₁, (complete e.key).runOn s = (.ok key, s₁) := by
  rcases Action.exists_of_runOn_bind answered with ⟨own, s₁, completed, answered⟩
  cases answered
  exact ⟨s₁, completed⟩

/-- A put stores the record under the key that it answers, and leaves all others alone. -/
theorem getElem?_putOne {e : Entity} {key : Key} {s s' : Store}
    (answered : (putOne e).runOn s = (.ok key, s')) (key' : Key) :
    s'.records[key']? = if key = key' then some { e with key } else s.records[key']? := by
  rw [(wrote_of_putOne answered).record key', Write.last_singleton]
  by_cases same : key = key' <;> simp [Write.ofPut, Write.key, Write.left, same]

/-- A put writes the records that it answers keys for, in their order. -/
theorem wrote_put (es : List Entity) (s : Store) :
    Wrote ((Action.answered putOne es s).map Write.ofPut) s ((put es).runOn s).2 := by
  refine logs_wrote.mapM wrote_of_putOne ?_ es s
  intro e s cause s' failed
  rw [(complete_of_putOne_error failed).2]
  exact logs_wrote.refl s

/-- A store and the same after some writes that took effect at once. -/
structure TookEffect (writes : List Write) (s s' : Store) : Prop where
  record : ∀ key, s'.records[key]? = (Write.last writes key).getD s.records[key]?
  version : ∀ group, s'.version group =
    if ∃ write ∈ writes, write.key.root = group then s.version group + 1 else s.version group
  nextId : s'.nextId = s.nextId

end Store

namespace Transaction

/-- Whether a transaction has buffered some writes and nothing else. -/
def Holds (t : Transaction) (writes : List Write) : Prop :=
  ∀ key, t.writes[key]? = Write.last writes key

theorem holds_nil : Holds {} [] :=
  fun _ => Std.ExtTreeMap.getElem?_empty

theorem confined_empty : Confined {} :=
  fun _ buffered => absurd buffered Std.ExtTreeMap.not_mem_empty

/-- A transaction and the same after some more writes were buffered. -/
def Buffers (writes : List Write) (before after : OnStore) : Prop :=
  ∀ key, after.1.writes[key]? = (Write.last writes key).or before.1.writes[key]?

theorem buffers_of_writes_eq {before after : OnStore} (same : after.1.writes = before.1.writes) :
    Buffers [] before after := by
  intro key
  rw [same]
  rfl

theorem logs_buffers : Logs Buffers where
  refl _ := buffers_of_writes_eq rfl
  append {l l' s s' s''} first second := by
    intro key
    rw [second key, first key, Write.last_append, Option.or_assoc]

theorem Holds.append {earlier later : List Write} {t t' : Transaction} {s s' : Store}
    (holds : t.Holds earlier) (buffers : Buffers later (t, s) (t', s')) :
    t'.Holds (earlier ++ later) := by
  intro key
  rw [Write.last_append, ← holds key]
  exact buffers key

/-- A write that is answered is buffered. -/
theorem buffers_of_writeOne {write : Write} {state state' : OnStore}
    (answered : (writeOne write.key write.left).runOn state = (.ok (), state')) :
    Buffers [write] state state' := by
  obtain ⟨_, ⟨t, s⟩, entered, buffered⟩ := Action.exists_of_runOn_bind answered
  obtain ⟨_, sameWrites, _⟩ := group_of_enterGroup entered
  cases buffered
  intro key
  change (t.writes.insert write.key write.left)[key]? = _
  rw [Std.ExtTreeMap.getElem?_insert, Write.last_singleton]
  by_cases same : write.key = key
  · simp [same]
  · simp [same, ← sameWrites]

/-- A write that is not answered fails to enter the group, and nothing changes. -/
theorem eq_of_writeOne_error {key : Key} {e : Option Entity} {state state' : OnStore}
    {cause : Interruption} (failed : (writeOne key e).runOn state = (.error cause, state')) :
    state' = state := by
  obtain ⟨t, s⟩ := state
  rcases Action.failed_of_runOn_bind failed with refused | ⟨_, _, _, failed⟩
  · rcases runOn_enterGroup_cases key t s with ⟨_, entered⟩ | ⟨_, entered⟩ | ⟨_, refused'⟩
    · cases entered.symm.trans refused
    · cases entered.symm.trans refused
    · cases refused'.symm.trans refused
      rfl
  · cases failed

/-- Completing a key inside a transaction leaves the transaction as it is. -/
theorem fst_of_runOn_on_second {α : Type} {x : Action Store α} {state state' : OnStore}
    {outcome : Except Interruption α}
    (ran : (Action.on .second x).runOn state = (outcome, state')) :
    state'.1 = state.1 :=
  congrArg (fun ended => ended.2.1) ran.symm

theorem buffers_of_putOne {e : Entity} {key : Key} {state state' : OnStore}
    (answered : (putOne e).runOn state = (.ok key, state')) :
    Buffers [.ofPut (e, key)] state state' := by
  obtain ⟨own, state₁, completed, answered⟩ := Action.exists_of_runOn_bind answered
  obtain ⟨_, state₂, buffered, answered⟩ := Action.exists_of_runOn_bind answered
  cases answered
  have same : state₁.1.writes = state.1.writes := by rw [fst_of_runOn_on_second completed]
  exact logs_buffers.append (buffers_of_writes_eq same)
    (@buffers_of_writeOne (.ofPut (e, key)) _ _ buffered)

/-- A put of one record that is not answered leaves the transaction as it is. -/
theorem untouched_of_putOne_error {e : Entity} {state state' : OnStore} {cause : Interruption}
    (failed : (putOne e).runOn state = (.error cause, state')) :
    state'.1 = state.1 ∧ state.2.Untouched state'.2 := by
  have untouched := (keeps_putOne e state).untouched
  rw [failed] at untouched
  refine ⟨?_, untouched⟩
  rcases Action.failed_of_runOn_bind failed with incomplete | ⟨key, state₁, completed, failed⟩
  · exact fst_of_runOn_on_second incomplete
  · rcases Action.failed_of_runOn_bind failed with refused | ⟨_, _, _, failed⟩
    · rw [eq_of_writeOne_error refused]
      exact fst_of_runOn_on_second completed
    · cases failed

theorem buffers_of_deleteOne {key : Key} {state state' : OnStore}
    (answered : (deleteOne key).runOn state = (.ok (), state')) :
    Buffers [.removal key] state state' :=
  @buffers_of_writeOne (.removal key) _ _ answered

/-- A put buffers the records that it answers keys for, in their order. -/
theorem buffers_put (es : List Entity) (state : OnStore) :
    Buffers ((Action.answered putOne es state).map Write.ofPut) state
      ((es.mapM putOne).runOn state).2 := by
  refine logs_buffers.mapM buffers_of_putOne ?_ es state
  intro e state cause state' failed
  exact buffers_of_writes_eq (by rw [(untouched_of_putOne_error failed).1])

/-- A deletion buffers the removals that it makes, in their order. -/
theorem buffers_delete (keys : List Key) (state : OnStore) :
    Buffers ((Action.answered deleteOne keys state).map fun removed => .removal removed.1) state
      ((keys.forM deleteOne).runOn state).2 := by
  rw [Action.runOn_forM_snd]
  refine logs_buffers.mapM buffers_of_deleteOne ?_ keys state
  intro key state cause state' failed
  rw [eq_of_writeOne_error failed]
  exact logs_buffers.refl state

/-- When a commit goes through, the buffered writes take effect. -/
theorem tookEffect_commit {t : Transaction} {writes : List Write} (holds : t.Holds writes)
    (confined : t.Confined) {s : Store} (committed : (t.commit s).1 = true) :
    s.TookEffect writes (t.commit s).2 where
  record key := by
    have buffered := holds key
    cases left : Write.last writes key with
    | none =>
        rw [left] at buffered
        apply getElem?_commit
        simp [Std.ExtTreeMap.mem_iff_isSome_getElem?, buffered]
    | some e =>
        rw [left] at buffered
        have inside : key ∈ t.writes := by
          simp [Std.ExtTreeMap.mem_iff_isSome_getElem?, buffered]
        have pinned := confined key inside
        rw [getElem?_commit_of_buffered pinned buffered committed]
        cases e with
        | none => rfl
        | some e =>
            obtain rfl := Write.key_of_last left
            rfl
  version group := by
    have written : ∀ key, key ∈ t.writes ↔ ∃ write ∈ writes, write.key = key := by
      intro key
      rw [Std.ExtTreeMap.mem_iff_isSome_getElem?, holds key, Write.last_isSome_iff]
    have nonempty : t.writes.isEmpty = false ↔ ∃ key, key ∈ t.writes := by
      simp [Std.ExtTreeMap.isEmpty_eq_false_iff, Std.ExtTreeMap.eq_empty_iff_forall_not_mem]
    have moves : ((t.commit s).1 = true ∧ t.group = some group ∧ t.writes.isEmpty = false) ↔
        ∃ write ∈ writes, write.key.root = group := by
      constructor
      · rintro ⟨_, pinned, some⟩
        obtain ⟨key, buffered⟩ := nonempty.mp some
        obtain ⟨write, member, rfl⟩ := (written key).mp buffered
        exact ⟨write, member, Option.some.inj ((confined _ buffered).symm.trans pinned)⟩
      · rintro ⟨write, member, rfl⟩
        have buffered := (written write.key).mpr ⟨write, member, rfl⟩
        exact ⟨committed, confined _ buffered, nonempty.mpr ⟨_, buffered⟩⟩
    simp only [version_commit, moves]
  nextId := (commit_snd_cases t s).1

end Transaction

end EntityStore
