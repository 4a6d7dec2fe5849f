import EntityStore.Proofs.Failure
import EntityStore.Proofs.Store.Progress
import EntityStore.Store.Transaction

/-!
# What the calls of a transaction do

Inside a transaction no call touches a record or a version of the store.  The first key that a call
touches pins its group and the version that the group has then, and both stay as they are.  All
buffered keys lie in the pinned group.  So what a call answers is what the store holds at that
moment, and a commit changes the pinned group alone.
-/

namespace EntityStore.Transaction

/-- Whether every buffered key lies in the pinned group. -/
def Confined (t : Transaction) : Prop :=
  ∀ key ∈ t.writes, t.group = some key.root

/-- A transaction and its store, and the same later in the transaction. -/
structure Continues (before after : OnStore) : Prop where
  untouched : before.2.Untouched after.2
  keeps_pin : ∀ group, before.1.group = some group →
    after.1.group = some group ∧ after.1.version = before.1.version
  pins_current : ∀ group, before.1.group = none → after.1.group = some group →
    after.1.version = before.2.version group
  confined : before.1.Confined → after.1.Confined

theorem chains_continues : Chains Continues where
  refl state := {
    untouched := Store.chains_untouched.refl state.2
    keeps_pin := fun group pinned => ⟨pinned, rfl⟩
    pins_current := by
      intro group unpinned pinned
      rw [unpinned] at pinned
      contradiction
    confined := id }
  trans {a b c} first second := {
    untouched := Store.chains_untouched.trans first.untouched second.untouched
    keeps_pin := by
      intro group pinned
      obtain ⟨pinned', version⟩ := first.keeps_pin group pinned
      obtain ⟨pinned'', version'⟩ := second.keeps_pin group pinned'
      exact ⟨pinned'', version'.trans version⟩
    pins_current := by
      intro group unpinned pinned
      cases between : b.1.group with
      | none =>
          rw [second.pins_current group between pinned, first.untouched.version_eq]
      | some group' =>
          obtain ⟨pinned', version⟩ := second.keeps_pin group' between
          cases pinned'.symm.trans pinned
          rw [version, first.pins_current group unpinned between]
    confined := fun confined => second.confined (first.confined confined) }

/-- Entering the group of a key pins it, finds it pinned, or fails. -/
theorem runOn_enterGroup_cases (key : Key) (t : Transaction) (s : Store) :
    (t.group = none ∧ (enterGroup key).runOn (t, s) =
        (.ok (), ({ t with group := some key.root, version := s.version key.root }, s))) ∨
      (t.group = some key.root ∧ (enterGroup key).runOn (t, s) = (.ok (), (t, s))) ∨
      ∃ group, (enterGroup key).runOn (t, s) =
        (.error (.failure (.crossGroup key group)), (t, s)) := by
  rw [enterGroup, Action.runOn_bind, Action.runOn_read]
  cases pinned : t.group with
  | none =>
      left
      simp [pinned]
  | some group =>
      by_cases same : group = key.root
      · right
        left
        simp [pinned, same]
      · right
        right
        exact ⟨group, by simp [pinned, same]⟩

theorem continues_pin {t : Transaction} (unpinned : t.group = none) (s : Store) (group : Key) :
    Continues (t, s) ({ t with group := some group, version := s.version group }, s) where
  untouched := Store.chains_untouched.refl s
  keeps_pin group' pinned := by simp [unpinned] at pinned
  pins_current group' _ pinned := by
    cases pinned
    rfl
  confined confined := by
    intro key buffered
    have elsewhere := confined key buffered
    simp [unpinned] at elsewhere

theorem continues_buffer {t : Transaction} {key : Key} (pinned : t.group = some key.root)
    (s : Store) (e : Option Entity) : Continues (t, s) (t.buffer key e, s) where
  untouched := Store.chains_untouched.refl s
  keeps_pin group pinned := ⟨pinned, rfl⟩
  pins_current group unpinned _ := absurd (pinned.symm.trans unpinned) (by simp)
  confined confined := by
    intro key' buffered
    rcases Std.ExtTreeMap.mem_insert.mp buffered with same | before
    · rw [← Std.LawfulEqOrd.eq_of_compare same]
      exact pinned
    · exact confined key' before

theorem keeps_enterGroup (key : Key) : Action.Keeps Continues (enterGroup key) := by
  rintro ⟨t, s⟩
  rcases runOn_enterGroup_cases key t s with ⟨unpinned, entered⟩ | ⟨_, entered⟩ | ⟨_, refused⟩
  · rw [entered]
    exact continues_pin unpinned s key.root
  · rw [entered]
    exact chains_continues.refl (t, s)
  · rw [refused]
    exact chains_continues.refl (t, s)

/-- Only a key of the pinned group is entered. -/
theorem group_of_enterGroup {key : Key} {state state' : OnStore}
    (entered : (enterGroup key).runOn state = (.ok (), state')) :
    state'.1.group = some key.root ∧ state'.1.writes = state.1.writes ∧ state'.2 = state.2 := by
  obtain ⟨t, s⟩ := state
  rcases runOn_enterGroup_cases key t s with ⟨_, outcome⟩ | ⟨pinned, outcome⟩ | ⟨_, outcome⟩
  · cases outcome.symm.trans entered
    exact ⟨rfl, rfl, rfl⟩
  · cases outcome.symm.trans entered
    exact ⟨pinned, rfl, rfl⟩
  · cases outcome.symm.trans entered

theorem keeps_writeOne (key : Key) (e : Option Entity) :
    Action.Keeps Continues (writeOne key e) := by
  intro state
  have moved := keeps_enterGroup key state
  rw [writeOne, Action.runOn_bind]
  rcases outcome : (enterGroup key).runOn state with ⟨error | _, t, s⟩
  · rw [outcome] at moved
    exact moved
  · rw [outcome] at moved
    exact chains_continues.trans moved
      (continues_buffer (group_of_enterGroup outcome).1 s e)

theorem keeps_on_second {α : Type} {x : Action Store α}
    (untouched : Action.Keeps Store.Untouched x) :
    Action.Keeps Continues (Action.on (.second : Part OnStore Store) x) := by
  rintro ⟨t, s⟩
  exact {
    untouched := untouched s
    keeps_pin := fun group pinned => ⟨pinned, rfl⟩
    pins_current := fun group unpinned pinned => absurd (unpinned.symm.trans pinned) (by simp)
    confined := id }

theorem keeps_getOne (key : Key) : Action.Keeps Continues (getOne key) := by
  apply Action.keeps_bind chains_continues (keeps_enterGroup key)
  intro _
  exact Action.keeps_read chains_continues _

theorem keeps_putOne (e : Entity) : Action.Keeps Continues (putOne e) := by
  apply Action.keeps_bind chains_continues (keeps_on_second (Store.keeps_complete e.key))
  intro key
  apply Action.keeps_bind chains_continues (keeps_writeOne key _)
  intro _
  exact Action.keeps_pure chains_continues key

theorem keeps_enterQuery (q : PrimitiveQuery) : Action.Keeps Continues (enterQuery q) := by
  unfold enterQuery
  split
  · exact keeps_enterGroup _
  · exact Action.keeps_fail chains_continues _

theorem lookup_congr {t t' : Transaction} (same : t'.writes = t.writes) (s : Store) (key : Key) :
    t'.lookup s key = t.lookup s key := by
  rw [lookup, lookup, same]

/-- A read answers what the transaction sees, and pins the group of the key. -/
theorem lookup_of_getOne {key : Key} {state state' : OnStore} {found : Option Entity}
    (answered : (getOne key).runOn state = (.ok found, state')) :
    found = state.1.lookup state.2 key ∧ state'.1.group = some key.root ∧
      state'.1.writes = state.1.writes ∧ state'.2 = state.2 := by
  obtain ⟨_, state'', entered, read⟩ := Action.exists_of_runOn_bind answered
  obtain ⟨pinned, sameWrites, sameStore⟩ := group_of_enterGroup entered
  have seen : state''.1.lookup state''.2 key = state.1.lookup state.2 key := by
    rw [lookup_congr sameWrites, sameStore]
  cases read
  exact ⟨seen, pinned, sameWrites, sameStore⟩

/-- Reads answer what the transaction sees, and only for keys of the pinned group. -/
theorem lookup_of_mapM_getOne {keys : List Key} {state state' : OnStore}
    {found : List (Option Entity)}
    (answered : (keys.mapM getOne).runOn state = (.ok found, state')) :
    found = keys.map (state.1.lookup state.2) ∧ ∀ key ∈ keys, state'.1.group = some key.root := by
  induction keys generalizing state found with
  | nil =>
      cases answered
      simp
  | cons key keys ih =>
      rw [List.mapM_cons] at answered
      obtain ⟨e, state'', one, answered⟩ := Action.exists_of_runOn_bind answered
      obtain ⟨rest, last, others, answered⟩ := Action.exists_of_runOn_bind answered
      cases answered
      obtain ⟨seen, pinned, sameWrites, sameStore⟩ := lookup_of_getOne one
      obtain ⟨seenRest, pinnedRest⟩ := ih others
      have continued := Action.keeps_mapM chains_continues keeps_getOne keys state''
      rw [others] at continued
      constructor
      · rw [List.map_cons, seen, seenRest, sameStore]
        congr 1
        apply List.map_congr_left
        intro key _
        exact lookup_congr sameWrites state.2 key
      · intro key' member
        rcases List.mem_cons.mp member with rfl | member
        · exact (continued.keeps_pin _ pinned).1
        · exact pinnedRest key' member

/-- A query is answered from the store as it is, and pins the group of its ancestor. -/
theorem answer_of_enterQuery {α : Type} {q : PrimitiveQuery} {f : OnStore → α}
    {state state' : OnStore} {a : α}
    (answered : (enterQuery q >>= fun _ => Action.read f).runOn state = (.ok a, state')) :
    ∃ ancestor, q.ancestor = some ancestor ∧ state'.1.group = some ancestor.root ∧
      state'.2 = state.2 ∧ a = f state' := by
  obtain ⟨_, state'', entered, read⟩ := Action.exists_of_runOn_bind answered
  cases read
  unfold enterQuery at entered
  split at entered
  · rename_i ancestor restricts
    obtain ⟨pinned, _, sameStore⟩ := group_of_enterGroup entered
    exact ⟨ancestor, restricts, pinned, sameStore, rfl⟩
  · simp at entered

/-! ## Commits -/

/-- A commit goes through when nothing is pinned or the pinned version still stands. -/
theorem commit_fst_iff {t : Transaction} {group : Key} (pinned : t.group = some group) (s : Store) :
    (t.commit s).1 = true ↔ s.version group = t.version := by
  simp only [commit, pinned]
  split <;> simp_all

theorem getElem?_foldl_replace {l : List (Key × Option Entity)} {key : Key}
    (absent : ∀ write ∈ l, write.1 ≠ key) (s : Store) :
    (l.foldl (fun s write => s.replace write.1 write.2) s).records[key]? = s.records[key]? := by
  induction l generalizing s with
  | nil => rfl
  | cons write l ih =>
      rw [List.foldl_cons, ih (fun other member => absent other (List.mem_cons_of_mem _ member)),
        Store.getElem?_replace, if_neg (absent write List.mem_cons_self)]

theorem version_foldl_replace (l : List (Key × Option Entity)) (s : Store) (group : Key) :
    (l.foldl (fun s write => s.replace write.1 write.2) s).version group = s.version group := by
  induction l generalizing s with
  | nil => rfl
  | cons write l ih => rw [List.foldl_cons, ih, Store.version_replace]

/-- Applying the buffered writes changes no other key. -/
theorem getElem?_applyWrites {t : Transaction} {key : Key} (absent : key ∉ t.writes) (s : Store) :
    (t.applyWrites s).records[key]? = s.records[key]? := by
  rw [applyWrites, Std.ExtTreeMap.foldl_eq_foldl_toList]
  apply getElem?_foldl_replace
  intro write member same
  have found := Std.ExtTreeMap.mem_toList_iff_getElem?_eq_some.mp member
  rw [same] at found
  exact absent (Std.ExtTreeMap.mem_iff_isSome_getElem?.mpr (by simp [found]))

/-- Applying the buffered writes stores what is buffered for a key. -/
theorem getElem?_applyWrites_of_buffered {t : Transaction} {key : Key} {e : Option Entity}
    (buffered : t.writes[key]? = some e) (s : Store) :
    (t.applyWrites s).records[key]? = e.map fun e => { e with key } := by
  rw [applyWrites, Std.ExtTreeMap.foldl_eq_foldl_toList]
  refine Failure.outcome_of_foldl
    (P := fun s : Store => s.records[key]? = e.map fun e => { e with key })
    (Std.ExtTreeMap.mem_toList_iff_getElem?_eq_some.mpr buffered) ?_ ?_
  · intro s
    rw [Store.getElem?_replace, if_pos rfl]
  · rintro ⟨key', e'⟩ member s stored
    rw [Store.getElem?_replace]
    split
    · rename_i same
      cases same
      rw [Std.ExtTreeMap.mem_toList_iff_getElem?_eq_some, buffered] at member
      cases member
      rfl
    · exact stored

@[simp]
theorem version_applyWrites (t : Transaction) (s : Store) (group : Key) :
    (t.applyWrites s).version group = s.version group := by
  rw [applyWrites, Std.ExtTreeMap.foldl_eq_foldl_toList, version_foldl_replace]

/-- A commit that does not go through changes nothing. -/
theorem commit_snd_of_refused {t : Transaction} {s : Store} (refused : (t.commit s).1 ≠ true) :
    (t.commit s).2 = s := by
  unfold commit at refused ⊢
  split
  · rfl
  · rename_i group pinned
    simp only [pinned] at refused
    split
    · rename_i current
      simp [current] at refused
    · rfl

/-- A commit changes the records of buffered keys only. -/
theorem getElem?_commit {t : Transaction} {key : Key} (absent : key ∉ t.writes) (s : Store) :
    (t.commit s).2.records[key]? = s.records[key]? := by
  unfold commit
  split
  · rfl
  · split
    · dsimp only
      split
      · exact getElem?_applyWrites absent s
      · exact getElem?_applyWrites absent s
    · rfl

/-- A commit that goes through stores what is buffered for a key. -/
theorem getElem?_commit_of_buffered {t : Transaction} {group key : Key} {e : Option Entity}
    (pinned : t.group = some group) (buffered : t.writes[key]? = some e) {s : Store}
    (committed : (t.commit s).1 = true) :
    (t.commit s).2.records[key]? = e.map fun e => { e with key } := by
  have current := (commit_fst_iff pinned s).mp committed
  simp only [commit, pinned, current, ↓reduceIte]
  split
  · exact getElem?_applyWrites_of_buffered buffered s
  · exact getElem?_applyWrites_of_buffered buffered s

/-- A commit without buffered writes changes nothing. -/
theorem commit_snd_of_idle {t : Transaction} (idle : t.writes = ∅) (s : Store) :
    (t.commit s).2 = s := by
  have applied : t.applyWrites s = s := by
    rw [applyWrites, idle]
    rfl
  unfold commit
  split
  · rfl
  · split
    · simp [applied, idle]
    · rfl

/-- A commit moves the pinned group alone, and only if it goes through with a buffered key. -/
theorem version_commit (t : Transaction) (s : Store) (group : Key) :
    (t.commit s).2.version group =
      if (t.commit s).1 = true ∧ t.group = some group ∧ t.writes.isEmpty = false then
        s.version group + 1
      else s.version group := by
  unfold commit
  cases pinned : t.group with
  | none => simp
  | some own =>
      by_cases current : s.version own = t.version
      · rcases Decidable.em (own = group) with rfl | other
        · cases t.writes.isEmpty <;> simp [current, Store.version_bump]
        · cases t.writes.isEmpty <;> simp [current, other, Store.version_bump]
      · simp [current]

/-- A commit that goes through moves the group of every buffered key. -/
theorem version_lt_of_commit {t : Transaction} (confined : t.Confined) {s : Store}
    (committed : (t.commit s).1 = true) {key : Key} (buffered : key ∈ t.writes) :
    s.version key.root < (t.commit s).2.version key.root := by
  have nonempty : t.writes.isEmpty = false := by
    rw [Std.ExtTreeMap.isEmpty_eq_false_iff]
    intro empty
    rw [empty] at buffered
    exact Std.ExtTreeMap.not_mem_empty buffered
  rw [version_commit, if_pos ⟨committed, confined key buffered, nonempty⟩]
  exact Nat.lt_succ_self _

/-- A commit moves the store on. -/
theorem advances_commit {t : Transaction} (confined : t.Confined) (s : Store) :
    s.Advances (t.commit s).2 := by
  by_cases committed : (t.commit s).1 = true
  · constructor
    · intro group
      rw [version_commit]
      split <;> omega
    · intro key same
      by_cases buffered : key ∈ t.writes
      · have moved := version_lt_of_commit confined committed buffered
        omega
      · exact getElem?_commit buffered s
  · rw [commit_snd_of_refused committed]
    exact Store.chains_advances.refl s

end EntityStore.Transaction
