import EntityStore.Proofs.Store.World

/-!
# Isolation of transactions

A transaction whose commit goes through has seen its group as it still is.  The records of the group
are those that were stored when the group was pinned, so every read and every query of the
transaction would be answered the same way at the moment of the commit.  Whatever was written to
the group by others was written before the pin.  The commit itself changes nothing outside the
group.
-/

namespace EntityStore

/-- The keys whose records an event writes or removes. -/
def Event.writes (w : World) : Event → List Key
  | .direct (.put es) _ => Store.written es w.store
  | .direct (.delete keys) _ => keys
  | .commit i =>
    if ((w.transactions i).commit w.store).1 then (w.transactions i).writes.keys else []
  | _ => []

namespace World

/-- Every key that an event writes moves the version of its group. -/
theorem Sound.version_lt_of_mem_writes {w : World} (sound : w.Sound) {e : Event} {key : Key}
    (written : key ∈ e.writes w) :
    w.store.version key.root < (w.step e).store.version key.root := by
  cases e with
  | inside i call options => contradiction
  | direct call options =>
      cases call with
      | put es =>
          have after : (w.step (.direct (.put es) options)).store =
              ((Store.put es).runOn w.store).2 := by
            simp only [World.step, Call.perform, Store.storage, Action.runOn_map,
              Action.runOn_within_snd]
          rw [after]
          exact Store.version_lt_of_mem_written written
      | delete keys => exact Store.version_lt_of_mem_delete written
      | get keys => contradiction
      | allocateIds key size => contradiction
      | runQuery q window => contradiction
      | count q limit => contradiction
  | commit i =>
      rw [Event.writes] at written
      split at written
      · rename_i committed
        exact Transaction.version_lt_of_commit (sound.confined i) committed
          (Std.ExtTreeMap.mem_keys.mp written)
      · contradiction

/-- An event leaves the records of the keys alone that it does not write. -/
theorem getElem?_step_of_not_mem_writes {w : World} {e : Event} {key : Key}
    (spared : key ∉ e.writes w) : (w.step e).store.records[key]? = w.store.records[key]? := by
  cases e with
  | inside i call options =>
      have untouched := (Transaction.keeps_perform options call (w.view i)).untouched
      exact congrArg (fun records => records[key]?) untouched.records
  | direct call options =>
      cases call with
      | put es =>
          simp only [step, Call.perform, Store.storage, Action.runOn_map, Action.runOn_within_snd]
          exact Store.getElem?_put_of_not_mem_written spared
      | delete keys =>
          simp only [step, Call.perform, Store.storage, Action.runOn_within_snd,
            Action.runOn_update]
          exact Store.getElem?_delete_of_not_mem spared
      | allocateIds below size =>
          simp only [step, Call.perform, Store.storage, Action.runOn_map, Action.runOn_within_snd]
          rw [(Store.keeps_allocate size w.store).records]
      | get keys | runQuery q window | count q limit =>
          simp only [step, Call.perform, Store.storage, Action.runOn_map, Action.runOn_within_snd,
            Action.runOn_read]
  | commit i =>
      by_cases committed : ((w.transactions i).commit w.store).1 = true
      · rw [Event.writes, if_pos committed, Std.ExtTreeMap.mem_keys] at spared
        exact Transaction.getElem?_commit spared w.store
      · rw [step, Transaction.commit_snd_of_refused committed]

/-- Whether the commit of the `i`-th transaction would go through with a group pinned. -/
structure Commits (w : World) (i : Nat) (group : Key) : Prop where
  pinned : w.Pinned i group
  committed : ((w.transactions i).commit w.store).1 = true

variable {w : World} {e : Event} {after : List Event} {i : Nat} {group : Key}

/-- If a transaction commits, the version of its group has not moved since the event that pinned
it. -/
theorem Sound.version_eq_of_commits (sound : w.Sound) (pinned : (w.step e).Pinned i group)
    (commits : ((w.step e).run after).Commits i group) :
    ((w.step e).run after).store.version group = w.store.version group := by
  have current := (Transaction.commit_fst_iff commits.pinned _).mp commits.committed
  rcases pinned_or_untouched pinned with before | untouched
  · change (w.run (e :: after)).store.version group = _
    exact sound.version_eq before current
  · rw [(sound.step e).1.version_eq pinned current, untouched.version_eq]

/-- If a transaction commits, the records of its group are those that the event that pinned it
found. -/
theorem Sound.records_eq_of_commits (sound : w.Sound) (pinned : (w.step e).Pinned i group)
    (commits : ((w.step e).run after).Commits i group) {key : Key} (inside : key.root = group) :
    ((w.step e).run after).store.records[key]? = w.store.records[key]? := by
  subst inside
  exact (sound.run (e :: after)).2.advances.records_eq key
    (sound.version_eq_of_commits pinned commits)

/-- If a transaction commits, no event since the one that pinned its group wrote to the group. -/
theorem Sound.root_ne_of_commits (sound : w.Sound) (pinned : (w.step e).Pinned i group)
    (commits : ((w.step e).run after).Commits i group) {key : Key} (written : key ∈ e.writes w) :
    key.root ≠ group := by
  rintro rfl
  have moved := sound.version_lt_of_mem_writes written
  have grown := ((sound.step e).1.run after).2.advances.version_le key.root
  have same := sound.version_eq_of_commits pinned commits
  omega

/-- What a transaction touches by an event is in the group that it commits. -/
theorem Sound.root_eq_of_commits (sound : w.Sound) {key : Key}
    (touched : (w.step e).Pinned i key.root)
    (commits : ((w.step e).run after).Commits i group) : key.root = group := by
  have kept := (((sound.step e).1.run after).2.keeps_pin i key.root touched).1
  exact Option.some.inj (kept.symm.trans commits.pinned)

/-- If a transaction commits, its reads of keys that it had not buffered would be answered the same
way now. -/
theorem Sound.reads_of_commits (sound : w.Sound) {keys : List Key} {options : CallOptions}
    {found : List (Option Entity)} {state : Transaction.OnStore}
    (answered : (Transaction.storage.get keys options).runOn (w.view i) = (.ok found, state))
    (commits : ((w.step (.inside i (.get keys) options)).run after).Commits i group) {n : Nat}
    {key : Key} (asked : keys[n]? = some key) (unbuffered : key ∉ (w.transactions i).writes) :
    found[n]? =
      some ((w.step (.inside i (.get keys) options)).run after).store.records[key]? := by
  obtain ⟨seen, pins⟩ := Transaction.lookup_of_mapM_getOne answered
  have touched : (w.step (.inside i (.get keys) options)).Pinned i key.root := by
    rw [Pinned, World.step, transactions_change_self, Call.perform, Action.runOn_map, answered]
    exact pins key (List.mem_of_getElem? asked)
  have inside := sound.root_eq_of_commits touched commits
  rw [sound.records_eq_of_commits (inside ▸ touched) commits inside, seen, List.getElem?_map, asked]
  have unwritten : (w.transactions i).writes[key]? = none :=
    Std.ExtTreeMap.getElem?_eq_none unbuffered
  simp only [Option.map_some, Transaction.lookup, view, unwritten]

/-- If a transaction commits, its queries would select the same records now. -/
theorem Sound.select_of_commits (sound : w.Sound) {q : PrimitiveQuery} {ancestor : Key}
    (restricts : q.ancestor = some ancestor) (nonempty : ancestor.path ≠ [])
    (touched : (w.step e).Pinned i ancestor.root)
    (commits : ((w.step e).run after).Commits i group) :
    q.select ((w.step e).run after).store.entities = q.select w.store.entities := by
  apply Store.select_congr
  intro key below
  rw [restricts, Option.all_some] at below
  have inside := sound.root_eq_of_commits touched commits
  apply sound.records_eq_of_commits (inside ▸ touched) commits
  rw [Key.root_eq_of_isAncestorOf nonempty below, inside]

/-- If a transaction commits, whatever its queries were asked would be answered the same way now. -/
theorem Sound.answer_of_commits (sound : w.Sound) {α : Type} {q : PrimitiveQuery}
    {answer : Store → α} {call : Call} {options : CallOptions}
    (asks : call.perform Transaction.storage options = (fun _ => ()) <$>
      (Transaction.enterQuery q >>= fun _ => Action.read fun (_, s) => answer s))
    (selects : ∀ {s s' : Store}, q.select s'.entities = q.select s.entities → answer s' = answer s)
    {a : α} {state : Transaction.OnStore}
    (answered : (Transaction.enterQuery q >>= fun _ =>
      Action.read fun (_, s) => answer s).runOn (w.view i) = (.ok a, state))
    (nonempty : ∀ ancestor, q.ancestor = some ancestor → ancestor.path ≠ [])
    (commits : ((w.step (.inside i call options)).run after).Commits i group) :
    a = answer ((w.step (.inside i call options)).run after).store := by
  obtain ⟨ancestor, restricts, pinned, sameStore, rfl⟩ :=
    Transaction.answer_of_enterQuery answered
  have touched : (w.step (.inside i call options)).Pinned i ancestor.root := by
    rw [Pinned, World.step, transactions_change_self, asks, Action.runOn_map, answered]
    exact pinned
  rw [selects (sound.select_of_commits restricts (nonempty ancestor restricts) touched commits)]
  exact congrArg answer sameStore

end World

/-- What isolation means for a run after which the `i`-th transaction commits to a group. -/
structure Isolated (w : World) (events : List Event) (i : Nat) (group : Key) : Prop where
  /-- One event of the run has pinned the group. -/
  pin : ∃ before e after, events = before ++ e :: after ∧
    ((w.run before).transactions i).group = none ∧ ((w.run before).step e).Pinned i group
  /-- The records of the group are those that this event and all later ones have found. -/
  snapshot : ∀ before e after, events = before ++ e :: after →
    ((w.run before).step e).Pinned i group → ∀ key : Key, key.root = group →
      (w.run events).store.records[key]? = (w.run before).store.records[key]?
  /-- Every read of a key that was not buffered has found what is stored now. -/
  reads : ∀ before keys options after found state,
    events = before ++ .inside i (.get keys) options :: after →
      (Transaction.storage.get keys options).runOn ((w.run before).view i) = (.ok found, state) →
        ∀ (n : Nat) (key : Key), keys[n]? = some key →
          key ∉ ((w.run before).transactions i).writes →
            found[n]? = some (w.run events).store.records[key]?
  /-- Every query has found what it would find now. -/
  queries : ∀ before (q : PrimitiveQuery) window options after results state,
    events = before ++ .inside i (.runQuery q window) options :: after →
      (Transaction.storage.runQuery q window options).runOn ((w.run before).view i) =
        (.ok results, state) →
        (∀ ancestor, q.ancestor = some ancestor → ancestor.path ≠ []) →
          results = (w.run events).store.runQuery q window
  /-- Every count has counted what it would count now. -/
  counts : ∀ before (q : PrimitiveQuery) limit options after number state,
    events = before ++ .inside i (.count q limit) options :: after →
      (Transaction.storage.count q limit options).runOn ((w.run before).view i) =
        (.ok number, state) →
        (∀ ancestor, q.ancestor = some ancestor → ancestor.path ≠ []) →
          number = (w.run events).store.count q limit
  /-- Whatever the run wrote to the group, it wrote before the group was pinned. -/
  seen : ∀ before e after, events = before ++ e :: after →
    ∀ key ∈ e.writes (w.run before), key.root = group →
      (((w.run before).step e).transactions i).group = none
  /-- The commit changes no record outside the group. -/
  records : ∀ key : Key, key.root ≠ group →
    ((w.run events).step (.commit i)).store.records[key]? = (w.run events).store.records[key]?
  /-- The commit moves no other version. -/
  versions : ∀ other, other ≠ group →
    ((w.run events).step (.commit i)).store.version other = (w.run events).store.version other

/-- In every run from a store, a commit that goes through with a group pinned is isolated. -/
theorem World.isolated_of_commits (s : Store) (events : List Event) (i : Nat) (group : Key)
    (commits : ((World.ofStore s).run events).Commits i group) :
    Isolated (.ofStore s) events i group where
  pin := exists_pin rfl (sound_ofStore s) commits.pinned
  snapshot := by
    rintro before e after rfl pinned key inside
    rw [run_append, run_cons] at commits ⊢
    exact ((sound_ofStore s).run before).1.records_eq_of_commits pinned commits inside
  reads := by
    rintro before keys options after found state rfl answered n key asked unbuffered
    rw [run_append, run_cons] at commits ⊢
    exact ((sound_ofStore s).run before).1.reads_of_commits answered commits asked unbuffered
  queries := by
    rintro before q window options after results state rfl answered nonempty
    rw [run_append, run_cons] at commits ⊢
    exact ((sound_ofStore s).run before).1.answer_of_commits rfl
      (fun same => Store.runQuery_congr same window) answered nonempty commits
  counts := by
    rintro before q limit options after number state rfl answered nonempty
    rw [run_append, run_cons] at commits ⊢
    exact ((sound_ofStore s).run before).1.answer_of_commits rfl
      (fun same => Store.count_congr same limit) answered nonempty commits
  seen := by
    rintro before e after rfl key written inside
    rw [run_append, run_cons] at commits
    have sound := ((sound_ofStore s).run before).1
    cases pinned : (((World.ofStore s).run before).step e |>.transactions i).group with
    | none => rfl
    | some own =>
        have kept := (((sound.step e).1.run after).2.keeps_pin i own pinned).1
        cases kept.symm.trans commits.pinned
        exact absurd inside (sound.root_ne_of_commits pinned commits written)
  records := by
    intro key outside
    have sound := ((sound_ofStore s).run events).1
    apply Transaction.getElem?_commit
    intro buffered
    have inside := (sound.confined i key buffered).symm.trans commits.pinned
    exact outside (Option.some.inj inside)
  versions := by
    intro other outside
    rw [step, Transaction.version_commit, if_neg]
    rintro ⟨_, pinned, _⟩
    exact outside (Option.some.inj (pinned.symm.trans commits.pinned))

/-- The account with a name. -/
def account (name : String) : Key :=
  ⟨[⟨"Account", some (.name name)⟩]⟩

/-- Two transactions read and write one account, and another account is written in between. -/
def schedule : List Event :=
  [.inside 0 (.get [account "a"]) ⟨none, .strong⟩,
    .inside 1 (.delete [account "a"]) ⟨none, .strong⟩,
    .direct (.put [{ key := account "b" }]) ⟨none, .strong⟩,
    .inside 0 (.put [{ key := account "a" }]) ⟨none, .strong⟩]

theorem isolated_schedule :
    ((World.ofStore {}).run schedule).Commits 0 (account "a") ∧
      Isolated (.ofStore {}) schedule 0 (account "a") := by
  have commits : ((World.ofStore {}).run schedule).Commits 0 (account "a") := ⟨rfl, by decide⟩
  exact ⟨commits, World.isolated_of_commits {} schedule 0 (account "a") commits⟩

end EntityStore
