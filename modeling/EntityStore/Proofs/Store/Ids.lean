import EntityStore.Proofs.Store.Isolation
import EntityStore.Proofs.Store.Keys

/-!
# Ids are never handed out twice

The store hands out ids upwards, and every number that is written moves the next id past it.  So at
any moment of a run the next id is above all numbers that the store or an open transaction holds,
and above all ids that were handed out.  A run is followed by what it does with ids, in the order in
which it does so; a transaction that fails or never commits has used up its ids all the same.
-/

namespace EntityStore

/-- What a run does with ids. -/
inductive IdUse where
  /-- A caller was given `count` ids, from the first to the last. -/
  | reserved (count : Nat) (first last : Int64)
  /-- An open key was given an id.  The completed key had the previous record in the store. -/
  | completed (key : Key) (previous : Option Entity)
  /-- A record was written to the store or into the buffer of a transaction. -/
  | recorded (key : Key)

namespace IdUse

/-- Whether an id is handed out. -/
def Grants (id : Int64) : IdUse → Prop
  | reserved _ first last => first ≤ id ∧ id ≤ last
  | completed key _ => key.number? = some id
  | recorded _ => False

/-- Whether an id is handed out or is the number of a written key. -/
def Involves (id : Int64) : IdUse → Prop
  | recorded key => key.number? = some id
  | use => use.Grants id

end IdUse

/-! ## What each event does with ids -/

/-- A completion hands out an id if the key is open. -/
def Store.completionUses (key : Key) (s : Store) : List IdUse :=
  match key.id?, (complete key).runOn s with
  | none, (.ok completed, _) => [.completed completed s.records[completed]?]
  | _, _ => []

/-- A reservation takes its range if there are ids left. -/
def Store.allocationUses (count : Nat) (s : Store) : List IdUse :=
  match (allocate count).runOn s with
  | (.ok (first, last), _) => [.reserved count first last]
  | (.error _, _) => []

namespace IdUse

variable {σ : Type}

/-- What putting one record does: completing its key, and writing the record unless that fails. -/
def ofPutOne (putOne : Entity → Action σ Key) (store : σ → Store) (e : Entity) (state : σ) :
    List IdUse :=
  (store state).completionUses e.key ++
    match (putOne e).runOn state with
    | (.ok key, _) => [recorded key]
    | (.error _, _) => []

/-- What putting records one after the other does, up to the first failure. -/
def ofPut (putOne : Entity → Action σ Key) (store : σ → Store) : List Entity → σ → List IdUse
  | [], _ => []
  | e :: es, state =>
    ofPutOne putOne store e state ++
      match (putOne e).runOn state with
      | (.ok _, state') => ofPut putOne store es state'
      | (.error _, _) => []

end IdUse

/-- The keys under which a transaction has buffered records. -/
def Transaction.recordedKeys (t : Transaction) : List Key :=
  t.writes.toList.filterMap fun (key, e) => e.map fun _ => key

/-- What an event does with ids. -/
def Event.idUses (w : World) : Event → List IdUse
  | .direct (.put es) _ => IdUse.ofPut Store.putOne id es w.store
  | .inside i (.put es) _ => IdUse.ofPut Transaction.putOne Prod.snd es (w.view i)
  | .direct (.allocateIds _ count) _ => w.store.allocationUses count
  | .inside _ (.allocateIds _ count) _ => w.store.allocationUses count
  | .commit i =>
    if ((w.transactions i).commit w.store).1 then
      (w.transactions i).recordedKeys.map .recorded
    else []
  | _ => []

/-- What a run does with ids. -/
def World.idUses (w : World) : List Event → List IdUse
  | [] => []
  | e :: events => e.idUses w ++ (w.step e).idUses events

/-! ## What every span of a run keeps -/

/-- Numbers that are taken stay taken. -/
theorem Store.lasts_taken : Lasts Taken :=
  ⟨fun le taken => taken.mono le⟩

/-- The number of a completed key is taken. -/
theorem Entity.enters_taken (e : Entity) (s : Store) : e.Enters Store.Taken s :=
  fun _ _ answered => (Store.completes_of_runOn answered).taken

namespace IdUse

/-- What holds of each use by itself: a range has as many ids as were asked for, and an open key got
an id under which nothing was stored. -/
def Proper : IdUse → Prop
  | reserved count first last => last.toInt + 1 - first.toInt = count
  | completed key previous => key.number?.isSome ∧ previous = none
  | recorded _ => True

/-- What holds of the uses while the next id moves from `before` to `after`. -/
structure Span (before after : Int64) (uses : List IdUse) : Prop where
  le : before ≤ after
  granted : ∀ use ∈ uses, ∀ id, use.Grants id → before ≤ id
  involved : ∀ use ∈ uses, ∀ id, use.Involves id → id < after
  once : uses.Pairwise fun earlier later => ∀ id, later.Grants id → ¬ earlier.Involves id
  proper : ∀ use ∈ uses, use.Proper

theorem span_nil {before after : Int64} (le : before ≤ after) : Span before after [] :=
  ⟨le, by simp, by simp, .nil, by simp⟩

theorem span_singleton {before after : Int64} {use : IdUse} (le : before ≤ after)
    (granted : ∀ id, use.Grants id → before ≤ id) (involved : ∀ id, use.Involves id → id < after)
    (proper : use.Proper) : Span before after [use] where
  le := le
  granted := by simpa using granted
  involved := by simpa using involved
  once := List.pairwise_singleton _ _
  proper := by simpa using proper

theorem Span.append {a b c : Int64} {us vs : List IdUse} (first : Span a b us)
    (second : Span b c vs) : Span a c (us ++ vs) where
  le := Int64.le_trans first.le second.le
  granted := by
    intro use member id grants
    rcases List.mem_append.mp member with earlier | later
    · exact first.granted use earlier id grants
    · exact Int64.le_trans first.le (second.granted use later id grants)
  involved := by
    intro use member id involves
    rcases List.mem_append.mp member with earlier | later
    · exact Int64.lt_of_lt_of_le (first.involved use earlier id involves) second.le
    · exact second.involved use later id involves
  once := by
    rw [List.pairwise_append]
    refine ⟨first.once, second.once, ?_⟩
    intro earlier earlierMem later laterMem id grants involves
    have below := first.involved earlier earlierMem id involves
    have above := second.granted later laterMem id grants
    exact Int64.lt_irrefl (Int64.lt_of_lt_of_le below above)
  proper := by
    intro use member
    rcases List.mem_append.mp member with earlier | later
    · exact first.proper use earlier
    · exact second.proper use later

theorem span_recorded {s s' : Store} {key : Key} (le : s.nextId ≤ s'.nextId)
    (taken : s'.Taken key) : Span s.nextId s'.nextId [recorded key] :=
  span_singleton le (fun _ grants => grants.elim) taken trivial

theorem span_map_recorded {s s' : Store} {keys : List Key} (le : s.nextId ≤ s'.nextId)
    (taken : ∀ key ∈ keys, s'.Taken key) :
    Span s.nextId s'.nextId (keys.map recorded) where
  le := le
  granted := by
    intro use member id grants
    obtain ⟨key, _, rfl⟩ := List.mem_map.mp member
    exact grants.elim
  involved := by
    intro use member
    obtain ⟨key, inside, rfl⟩ := List.mem_map.mp member
    exact taken key inside
  once := by
    rw [List.pairwise_map]
    exact List.pairwise_of_forall fun _ _ _ grants => grants.elim
  proper := by
    intro use member
    obtain ⟨key, _, rfl⟩ := List.mem_map.mp member
    trivial

theorem span_allocationUses (count : Nat) (s : Store) :
    Span s.nextId ((Store.allocate count).runOn s).2.nextId (s.allocationUses count) := by
  rcases allocated : (Store.allocate count).runOn s with ⟨_ | ⟨first, last⟩, s'⟩
  · rcases Store.runOn_allocate_cases count s with ⟨_, refused⟩ | ⟨_, _, granted⟩
    · cases refused.symm.trans allocated
      simp only [Store.allocationUses, allocated]
      exact span_nil (Int64.le_refl _)
    · cases granted.symm.trans allocated
  · obtain ⟨rfl, positive, last_eq, next⟩ := s.exactIds.allocation count first last s' allocated
    simp only [Store.allocationUses, allocated]
    apply span_singleton
    · rw [Int64.le_iff_toInt_le]
      omega
    · intro id grants
      exact grants.1
    · rintro id ⟨_, le⟩
      rw [Int64.le_iff_toInt_le] at le
      rw [Int64.lt_iff_toInt_lt]
      omega
    · rw [Proper]
      omega

theorem completionUses_of_error {key : Key} {s s' : Store} {e : Interruption}
    (failed : (Store.complete key).runOn s = (.error e, s')) : s.completionUses key = [] := by
  rw [Store.completionUses, failed]
  cases key.id? <;> rfl

theorem span_completionUses {key : Key} {s : Store} (nonempty : key.path ≠ [])
    (stocks : s.Stocks Store.Taken) :
    Span s.nextId ((Store.complete key).runOn s).2.nextId (s.completionUses key) := by
  rcases answered : (Store.complete key).runOn s with ⟨_ | key', s'⟩
  · rw [Store.eq_of_complete_error answered, completionUses_of_error answered]
    exact span_nil (Int64.le_refl _)
  · have completes := Store.completes_of_runOn answered
    cases identified : key.id? with
    | some id =>
        simp only [Store.completionUses, identified]
        exact span_nil completes.le
    | none =>
        have fresh := completes.granted identified nonempty
        have taken := completes.taken _ fresh
        simp only [Store.completionUses, identified, answered]
        apply span_singleton completes.le
        · intro id grants
          cases fresh.symm.trans grants
          exact Int64.le_refl _
        · exact completes.taken
        · refine ⟨by rw [fresh]; rfl, ?_⟩
          apply Std.ExtTreeMap.getElem?_eq_none
          intro stored
          exact Int64.lt_irrefl (stocks key' stored _ fresh)

variable {σ : Type} {putOne : Entity → Action σ Key} {store : σ → Store}

/-- A put of several records hands out ids as the single puts do that it comes to. -/
theorem span_ofPut {es : List Entity} {state : σ}
    (single : ∀ e state', Action.Reaches putOne es state e state' →
      Span (store state').nextId (store ((putOne e).runOn state').2).nextId
        (ofPutOne putOne store e state')) :
    Span (store state).nextId (store ((es.mapM putOne).runOn state).2).nextId
      (ofPut putOne store es state) := by
  induction es generalizing state with
  | nil => exact span_nil (Int64.le_refl _)
  | cons e es ih =>
      have first := single e state .first
      rw [Action.runOn_mapM_cons_snd, ofPut]
      rcases answered : (putOne e).runOn state with ⟨_ | key, state'⟩
      · rw [answered] at first
        simpa using first
      · rw [answered] at first
        exact first.append (ih fun e' state'' reaches =>
          single e' state'' (.later answered reaches))

end IdUse

/-! ## Single puts -/

theorem Store.span_putOne {e : Entity} {s : Store} (nonempty : e.key.path ≠ [])
    (stocks : s.Stocks Taken) :
    IdUse.Span s.nextId ((putOne e).runOn s).2.nextId (IdUse.ofPutOne putOne id e s) := by
  have completed := IdUse.span_completionUses nonempty stocks
  rcases answered : (complete e.key).runOn s with ⟨error | key, s'⟩
  · have failed : (putOne e).runOn s = (.error error, s') := by
      rw [putOne, Action.runOn_bind, answered]
    rw [answered] at completed
    simp only [IdUse.ofPutOne, failed, List.append_nil]
    exact completed
  · have put := runOn_putOne_of_complete answered
    rw [answered] at completed
    simp only [IdUse.ofPutOne, put]
    exact completed.append
      (IdUse.span_recorded (Int64.le_refl _) (completes_of_runOn answered).taken)

theorem Transaction.span_putOne {e : Entity} {state : OnStore} (nonempty : e.key.path ≠ [])
    (stocks : state.2.Stocks Store.Taken) :
    IdUse.Span state.2.nextId ((putOne e).runOn state).2.2.nextId
      (IdUse.ofPutOne putOne Prod.snd e state) := by
  obtain ⟨t, s⟩ := state
  have completed := IdUse.span_completionUses nonempty stocks
  rcases answered : (Store.complete e.key).runOn s with ⟨error | key, s'⟩
  · have failed : (putOne e).runOn (t, s) = (.error error, (t, s')) := by
      rw [putOne, Action.runOn_bind]
      simp [Action.on, Part.second, answered]
    rw [answered] at completed
    simp only [IdUse.ofPutOne, failed, List.append_nil]
    exact completed
  · have put : (putOne e).runOn (t, s) =
        (((writeOne key (some { e with key })).runOn (t, s')).1.map fun _ => key,
          ((writeOne key (some { e with key })).runOn (t, s')).2) := by
      rw [putOne, Action.runOn_bind]
      simp only [Action.on, Part.second, Action.runOn_ofFunction, answered, Action.runOn_bind]
      rcases (writeOne key (some { e with key })).runOn (t, s') with ⟨_ | _, _⟩ <;> rfl
    rw [answered] at completed
    simp only [IdUse.ofPutOne, put, store_writeOne]
    refine completed.append ?_
    rcases ((writeOne key (some { e with key })).runOn (t, s')).1 with _ | _
    · exact IdUse.span_nil (Int64.le_refl _)
    · exact IdUse.span_recorded (Int64.le_refl _) (Store.completes_of_runOn answered).taken

/-! ## Commits -/

namespace Transaction

theorem mem_recordedKeys {t : Transaction} {key : Key} :
    key ∈ t.recordedKeys ↔ ∃ e, t.writes[key]? = some (some e) := by
  simp only [recordedKeys, List.mem_filterMap, Prod.exists,
    Std.ExtTreeMap.mem_toList_iff_getElem?_eq_some]
  constructor
  · rintro ⟨_, e, found, kept⟩
    cases e with
    | none => cases kept
    | some e =>
        cases kept
        exact ⟨e, found⟩
  · rintro ⟨e, found⟩
    exact ⟨key, some e, found, rfl⟩

theorem group_enterGroup_ne_none (key : Key) (state : OnStore) :
    ((enterGroup key).runOn state).2.1.group ≠ none := by
  rw [enterGroup, Action.runOn_bind, Action.runOn_read]
  cases pinned : state.1.group with
  | none => simp [pinned]
  | some group =>
      by_cases same : group = key.root
      · simp [pinned, same]
      · simp [pinned, same]

theorem group_putOne_ne_none {e : Entity} {state : OnStore} {use : IdUse}
    (used : use ∈ IdUse.ofPutOne putOne Prod.snd e state) :
    ((putOne e).runOn state).2.1.group ≠ none := by
  obtain ⟨t, s⟩ := state
  rcases answered : (Store.complete e.key).runOn s with ⟨_ | key, s'⟩
  · simp [IdUse.ofPutOne, IdUse.completionUses_of_error answered, putOne, Action.on, Part.second,
      Action.runOn_bind, answered] at used
  · have entered := group_enterGroup_ne_none key (t, s')
    simp only [putOne, Action.on, Part.second, Action.runOn_bind, Action.runOn_ofFunction, answered,
      writeOne]
    rcases outcome : (enterGroup key).runOn (t, s') with ⟨_ | _, t', s''⟩
    · rw [outcome] at entered
      exact entered
    · rw [outcome] at entered
      exact entered

/-- A transaction that has used an id for a put has a group pinned from then on. -/
theorem group_put_ne_none {es : List Entity} {state : OnStore} {use : IdUse}
    (used : use ∈ IdUse.ofPut putOne Prod.snd es state) :
    ((es.mapM putOne).runOn state).2.1.group ≠ none := by
  induction es generalizing state with
  | nil => contradiction
  | cons e es ih =>
      rw [Action.runOn_mapM_cons_snd]
      rw [IdUse.ofPut] at used
      rcases List.mem_append.mp used with here | later
      · have pinned := group_putOne_ne_none here
        rcases answered : (putOne e).runOn state with ⟨_ | key, state'⟩
        · rw [answered] at pinned
          exact pinned
        · rw [answered] at pinned
          obtain ⟨group, found⟩ := Option.ne_none_iff_exists'.mp pinned
          have continued := Action.keeps_mapM chains_continues keeps_putOne es state'
          dsimp only
          rw [(continued.keeps_pin group found).1]
          simp
      · rcases answered : (putOne e).runOn state with ⟨_ | key, state'⟩
        · simp [answered] at later
        · rw [answered] at later
          exact ih later

end Transaction

/-! ## Runs -/

namespace World

/-- A world whose next id is positive and above all numbers that are stored or buffered. -/
structure Orderly (w : World) : Prop where
  positive : 1 ≤ w.store.nextId
  taken : w.Stocks Store.Taken

theorem orderly_empty : (ofStore {}).Orderly :=
  ⟨Int64.le_refl _, stocks_empty⟩

/-- Every event hands out ids from the next one on only. -/
theorem Orderly.span {w : World} (orderly : w.Orderly) {event : Event} (paths : event.HasPaths)
    (le : w.store.nextId ≤ (w.step event).store.nextId) :
    IdUse.Span w.store.nextId (w.step event).store.nextId (event.idUses w) := by
  cases event with
  | direct call options =>
      have after := Store.runOn_perform_snd options call w.store
      cases call with
      | put es =>
          rw [World.step, after]
          have moments : ∀ e s, Action.Reaches Store.putOne es w.store e s →
              s.Stocks Store.Taken :=
            (orderly.taken.store.put Store.lasts_taken fun e s _ => e.enters_taken s).2
          exact IdUse.span_ofPut fun e s reaches =>
            Store.span_putOne (paths e reaches.mem) (moments e s reaches)
      | allocateIds key count =>
          rw [World.step, after]
          exact IdUse.span_allocationUses count w.store
      | _ => exact IdUse.span_nil le
  | inside i call options =>
      cases call with
      | put es =>
          rw [World.step, Transaction.runOn_perform_put]
          have moments : ∀ e state, Action.Reaches Transaction.putOne es (w.view i) e state →
              Transaction.Stocks Store.Taken state :=
            ((orderly.taken i).put Store.lasts_taken fun e state _ => e.enters_taken state.2).2
          exact IdUse.span_ofPut fun e state reaches =>
            Transaction.span_putOne (paths e reaches.mem) (moments e state reaches).stored
      | allocateIds key count =>
          rw [World.step, Transaction.runOn_perform_allocateIds]
          exact IdUse.span_allocationUses count w.store
      | _ => exact IdUse.span_nil le
  | commit i =>
      rw [Event.idUses]
      split
      · apply IdUse.span_map_recorded le
        intro key recorded
        obtain ⟨e, buffered⟩ := Transaction.mem_recordedKeys.mp recorded
        exact ((orderly.taken i).buffered key e buffered).mono le
      · exact IdUse.span_nil le

/-- Every event keeps the order of ids, and hands out ids from the next one on only. -/
theorem Orderly.step {w : World} (orderly : w.Orderly) {event : Event} (paths : event.HasPaths) :
    (w.step event).Orderly ∧
      IdUse.Span w.store.nextId (w.step event).store.nextId (event.idUses w) := by
  have kept : (w.step event).Stocks Store.Taken ∧ w.store.nextId ≤ (w.step event).store.nextId :=
    orderly.taken.step Store.lasts_taken fun e s _ => e.enters_taken s
  obtain ⟨taken, le⟩ := kept
  exact ⟨⟨Int64.le_trans orderly.positive le, taken⟩, orderly.span paths le⟩

theorem Orderly.run {w : World} (orderly : w.Orderly) {events : List Event}
    (paths : ∀ event ∈ events, event.HasPaths) :
    (w.run events).Orderly ∧
      IdUse.Span w.store.nextId (w.run events).store.nextId (w.idUses events) := by
  induction events generalizing w with
  | nil => exact ⟨orderly, IdUse.span_nil (Int64.le_refl _)⟩
  | cons event events ih =>
      obtain ⟨orderly', first⟩ := orderly.step (paths event List.mem_cons_self)
      obtain ⟨orderly'', rest⟩ := ih orderly' fun e member =>
        paths e (List.mem_cons_of_mem _ member)
      exact ⟨orderly'', first.append rest⟩

/-- If a transaction that completed an open key commits, nothing is stored under the key. -/
theorem Sound.vacant_of_commits {w : World} (sound : w.Sound) (orderly : w.Orderly) {i : Nat}
    {es : List Entity} {options : CallOptions} (paths : ∀ e ∈ es, e.key.path ≠ []) {key : Key}
    {previous : Option Entity}
    (completed : .completed key previous ∈ Event.idUses w (.inside i (.put es) options))
    {after : List Event}
    (commits : ((w.step (.inside i (.put es) options)).run after).Commits i key.root) :
    ((w.step (.inside i (.put es) options)).run after).store.records[key]? = none := by
  have somePinned := Transaction.group_put_ne_none completed
  rw [← Transaction.runOn_perform_put options] at somePinned
  obtain ⟨group, found⟩ := Option.ne_none_iff_exists'.mp somePinned
  have pinned : (w.step (.inside i (.put es) options)).Pinned i group := by
    rw [Pinned, World.step, transactions_change_self, found]
  have kept := (((sound.step (.inside i (.put es) options)).1.run after).2.keeps_pin i group
    pinned).1
  cases kept.symm.trans commits.pinned
  rw [sound.records_eq_of_commits pinned commits rfl]
  have span := (@Orderly.step w orderly (.inside i (.put es) options) paths).2
  obtain ⟨id, numbered⟩ := Option.isSome_iff_exists.mp (span.proper _ completed).1
  apply Std.ExtTreeMap.getElem?_eq_none
  intro stored
  have above := span.granted _ completed id numbered
  exact Int64.lt_irrefl (Int64.lt_of_lt_of_le (orderly.taken.store key stored id numbered) above)

end World

/-- What it means for a run of the empty store that ids are never handed out twice. -/
structure NeverReused (events : List Event) : Prop where
  positive : ∀ use ∈ (World.ofStore {}).idUses events, ∀ id, use.Grants id → 1 ≤ id
  /-- An id that is handed out was never handed out or recorded before. -/
  once : ((World.ofStore {}).idUses events).Pairwise fun earlier later =>
    ∀ id, later.Grants id → ¬ earlier.Involves id
  /-- Ranges have the size asked for, and open keys are completed to keys without a record. -/
  proper : ∀ use ∈ (World.ofStore {}).idUses events, use.Proper
  /-- A commit stores no record over another one under a key that its transaction completed. -/
  committed : ∀ before i es options after key previous,
    events = before ++ .inside i (.put es) options :: after →
      .completed key previous ∈
        Event.idUses ((World.ofStore {}).run before) (.inside i (.put es) options) →
      ((World.ofStore {}).run events).Commits i key.root →
        ((World.ofStore {}).run events).store.records[key]? = none
  exact : ∀ s : Store, s.ExactIds

/-- In every run of the empty store, ids are never handed out twice. -/
theorem World.ids_neverReused (events : List Event) (paths : ∀ event ∈ events, event.HasPaths) :
    NeverReused events where
  positive := (orderly_empty.run paths).2.granted
  once := (orderly_empty.run paths).2.once
  proper := (orderly_empty.run paths).2.proper
  committed := by
    rintro before i es options after key previous rfl completed commits
    rw [run_append, run_cons] at commits ⊢
    have sound := ((sound_ofStore {}).run before).1
    have orderly := (orderly_empty.run fun event member =>
      paths event (List.mem_append_left _ member)).1
    have putPaths := paths _ (List.mem_append_right before List.mem_cons_self)
    exact sound.vacant_of_commits orderly putPaths completed commits
  exact := Store.exactIds

/-- One seat is put with a number and one without; a transaction then puts a third one without a
number, reserves ten more, and commits. -/
def seating : List Event :=
  [.direct (.put [{ key := ⟨[⟨"Seat", some (.number 7)⟩]⟩ }, { key := ⟨[⟨"Seat", none⟩]⟩ }])
      ⟨none, .strong⟩,
    .inside 0 (.put [{ key := ⟨[⟨"Seat", none⟩]⟩ }]) ⟨none, .strong⟩,
    .inside 0 (.allocateIds ⟨[⟨"Seat", none⟩]⟩ 10) ⟨none, .strong⟩,
    .commit 0]

theorem ids_neverReused_seating :
    (∀ event ∈ seating, event.HasPaths) ∧ NeverReused seating := by
  have paths : ∀ event ∈ seating, event.HasPaths := by
    simp [seating, Event.HasPaths]
  exact ⟨paths, World.ids_neverReused seating paths⟩

end EntityStore
