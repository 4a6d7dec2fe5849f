import EntityStore.Proofs.Store.Allocation
import EntityStore.Proofs.Store.World

/-!
# What all stored keys have in common

A key comes into a world in one way only: a put completes it, for the store or for the buffer of a
transaction.  So a property that every put makes sure of, and that keys do not lose while ids are
used up, holds of all keys that a run stores or buffers.
-/

namespace EntityStore

/-! ## Puts -/

/-- Whether all keys that an event puts have a path. -/
def Event.HasPaths : Event → Prop
  | .direct (.put es) _ | .inside _ (.put es) _ => ∀ e ∈ es, e.key.path ≠ []
  | _ => True

/-- Whether an event comes to put a record, and the store at that moment. -/
def Event.Puts (w : World) : Event → Entity → Store → Prop
  | .direct (.put es) _, e, s => Action.Reaches Store.putOne es w.store e s
  | .inside i (.put es) _, e, s =>
    ∃ t, Action.Reaches Transaction.putOne es (w.view i) e (t, s)
  | _, _, _ => False

/-- Whether a run comes to put a record, and the store at that moment. -/
def World.Puts (w : World) : List Event → Entity → Store → Prop
  | [], _, _ => False
  | event :: events, e, s => event.Puts w e s ∨ (w.step event).Puts events e s

theorem Event.Puts.path_ne_nil {w : World} {event : Event} {e : Entity} {s : Store}
    (puts : event.Puts w e s) (paths : event.HasPaths) : e.key.path ≠ [] := by
  cases event with
  | direct call options =>
      cases call with
      | put es => exact paths e puts.mem
      | _ => exact puts.elim
  | inside i call options =>
      cases call with
      | put es =>
          rcases puts with ⟨t, reaches⟩
          exact paths e reaches.mem
      | _ => exact puts.elim
  | commit i => exact puts.elim

theorem World.path_ne_nil_of_puts {w : World} {events : List Event} {e : Entity} {s : Store}
    (paths : ∀ event ∈ events, event.HasPaths) (puts : w.Puts events e s) : e.key.path ≠ [] := by
  induction events generalizing w with
  | nil => exact puts.elim
  | cons event events inductionHypothesis =>
      rcases puts with here | later
      · exact here.path_ne_nil (paths event List.mem_cons_self)
      · exact inductionHypothesis (fun other member => paths other (List.mem_cons_of_mem _ member))
          later

/-- A property of keys that is not lost while ids are used up. -/
structure Store.Lasts (P : Store → Key → Prop) : Prop where
  mono : ∀ {s s' : Store} {key : Key}, s.nextId ≤ s'.nextId → P s key → P s' key

/-- Whether the key of a record has a property as soon as it is completed. -/
def Entity.Enters (P : Store → Key → Prop) (e : Entity) (s : Store) : Prop :=
  ∀ key s', (Store.complete e.key).runOn s = (.ok key, s') → P s' key

variable {P : Store → Key → Prop}

/-! ## Calls outside of transactions -/

namespace Store

variable {s s' : Store}

theorem mem_records_write {s : Store} {key key' : Key} {e : Option Entity}
    (stored : key' ∈ (s.write key e).records) : key' = key ∨ key' ∈ s.records := by
  rw [Std.ExtTreeMap.mem_iff_isSome_getElem?, getElem?_write] at stored
  split at stored
  · rename_i same
    exact .inl same.symm
  · exact .inr (Std.ExtTreeMap.mem_iff_isSome_getElem?.mpr stored)

/-- What a call outside of transactions makes of the store. -/
theorem runOn_perform_snd (options : CallOptions) (call : Call) (s : Store) :
    ((call.perform storage options).runOn s).2 =
      match call with
      | .put es => ((es.mapM putOne).runOn s).2
      | .delete keys => s.delete keys
      | .allocateIds _ count => ((allocate count).runOn s).2
      | .get _ | .runQuery _ _ | .count _ _ => s := by
  cases call <;>
    simp only [Call.perform, storage, Action.runOn_map, Action.runOn_within_snd, put,
      Action.runOn_update, Action.runOn_read]

theorem delete_spec (s : Store) (keys : List Key) :
    (s.delete keys).nextId = s.nextId ∧ ∀ key ∈ (s.delete keys).records, key ∈ s.records := by
  induction keys generalizing s with
  | nil => exact ⟨rfl, fun key stored => stored⟩
  | cons first keys ih =>
      obtain ⟨next, subset⟩ := ih (s.write first none)
      refine ⟨next, ?_⟩
      intro key stored
      have stored' := subset key stored
      rw [Std.ExtTreeMap.mem_iff_isSome_getElem?, getElem?_write] at stored'
      split at stored'
      · simp at stored'
      · exact Std.ExtTreeMap.mem_iff_isSome_getElem?.mpr stored'

theorem le_nextId_allocate (count : Nat) (s : Store) :
    s.nextId ≤ ((allocate count).runOn s).2.nextId := by
  rcases runOn_allocate_cases count s with ⟨_, refused⟩ | ⟨positive, fits, granted⟩
  · rw [refused]
    exact Int64.le_refl _
  · have lower := s.nextId.le_toInt
    rw [granted, Int64.le_iff_toInt_le, toInt_ofInt (by omega) fits]
    omega

/-- Whether all stored keys have a property. -/
def Stocks (P : Store → Key → Prop) (s : Store) : Prop :=
  ∀ key ∈ s.records, P s key

theorem Stocks.of_subset (lasts : Lasts P) (stocks : s.Stocks P) (le : s.nextId ≤ s'.nextId)
    (subset : ∀ key ∈ s'.records, key ∈ s.records) : s'.Stocks P :=
  fun key stored => lasts.mono le (stocks key (subset key stored))

theorem Stocks.of_untouched (lasts : Lasts P) (stocks : s.Stocks P) (untouched : s.Untouched s')
    (le : s.nextId ≤ s'.nextId) : s'.Stocks P :=
  stocks.of_subset lasts le fun key stored => by rwa [untouched.records] at stored

theorem Stocks.write (lasts : Lasts P) (stocks : s.Stocks P) {key : Key} (has : P s key)
    (e : Entity) : (s.write key (some e)).Stocks P := by
  have le : s.nextId ≤ (s.write key (some e)).nextId := Int64.le_refl s.nextId
  intro key' stored
  apply lasts.mono le
  rcases mem_records_write stored with rfl | before
  · exact has
  · exact stocks key' before

theorem Stocks.putOne (lasts : Lasts P) (stocks : s.Stocks P) {e : Entity} (enters : e.Enters P s) :
    ((putOne e).runOn s).2.Stocks P ∧ s.nextId ≤ ((putOne e).runOn s).2.nextId := by
  have untouched := keeps_complete e.key s
  rcases answered : (complete e.key).runOn s with ⟨error | key, s'⟩
  · cases eq_of_complete_error answered
    rw [Store.putOne, Action.runOn_bind, answered]
    exact ⟨stocks, Int64.le_refl _⟩
  · rw [answered] at untouched
    rw [runOn_putOne_of_complete answered]
    have le := (completes_of_runOn answered).le
    have completed : s'.Stocks P := stocks.of_untouched lasts untouched le
    exact ⟨completed.write lasts (enters key s' answered) e, le⟩

/-- A put of several records keeps the property at each of them. -/
theorem Stocks.put (lasts : Lasts P) (stocks : s.Stocks P) {es : List Entity}
    (enters : ∀ e s', Action.Reaches Store.putOne es s e s' → e.Enters P s') :
    (((es.mapM Store.putOne).runOn s).2.Stocks P ∧
        s.nextId ≤ ((es.mapM Store.putOne).runOn s).2.nextId) ∧
      ∀ e s', Action.Reaches Store.putOne es s e s' → s'.Stocks P := by
  have kept := Action.invariant_mapM (fun s' : Store => s'.Stocks P ∧ s.nextId ≤ s'.nextId)
    (fun e s' reaches holds =>
      have put := holds.1.putOne lasts (enters e s' reaches)
      ⟨put.1, Int64.le_trans holds.2 put.2⟩)
    ⟨stocks, Int64.le_refl _⟩
  exact ⟨kept.1, fun e s' reaches => (kept.2 e s' reaches).1⟩

end Store

/-! ## Calls inside a transaction -/

namespace Transaction

/-- What leaves the store alone and buffers no record. -/
structure BuffersNone (before after : OnStore) : Prop where
  store_eq : after.2 = before.2
  buffered : ∀ (key : Key) (e : Entity), after.1.writes[key]? = some (some e) →
    before.1.writes[key]? = some (some e)

theorem chains_buffersNone : Chains BuffersNone where
  refl _ := ⟨rfl, fun _ _ buffered => buffered⟩
  trans first second :=
    ⟨second.store_eq.trans first.store_eq,
      fun key e buffered => first.buffered key e (second.buffered key e buffered)⟩

theorem keeps_buffersNone_enterGroup (key : Key) : Action.Keeps BuffersNone (enterGroup key) := by
  rintro ⟨t, s⟩
  rcases runOn_enterGroup_cases key t s with ⟨_, entered⟩ | ⟨_, entered⟩ | ⟨_, refused⟩
  · rw [entered]
    exact ⟨rfl, fun _ _ buffered => buffered⟩
  · rw [entered]
    exact chains_buffersNone.refl (t, s)
  · rw [refused]
    exact chains_buffersNone.refl (t, s)

theorem keeps_buffersNone_getOne (key : Key) : Action.Keeps BuffersNone (getOne key) :=
  Action.keeps_bind chains_buffersNone (keeps_buffersNone_enterGroup key) fun _ =>
    Action.keeps_read chains_buffersNone _

theorem keeps_buffersNone_deleteOne (key : Key) : Action.Keeps BuffersNone (deleteOne key) := by
  apply Action.keeps_bind chains_buffersNone (keeps_buffersNone_enterGroup key)
  rintro _ ⟨t, s⟩
  refine ⟨rfl, ?_⟩
  intro key' e buffered
  change (t.writes.insert key none)[key']? = some (some e) at buffered
  rw [Std.ExtTreeMap.getElem?_insert] at buffered
  split at buffered
  · cases buffered
  · exact buffered

theorem keeps_buffersNone_enterQuery (q : PrimitiveQuery) :
    Action.Keeps BuffersNone (enterQuery q) := by
  unfold enterQuery
  split
  · exact keeps_buffersNone_enterGroup _
  · exact Action.keeps_fail chains_buffersNone _

theorem keeps_buffersNone_ask {α : Type} (q : PrimitiveQuery) (f : OnStore → α) :
    Action.Keeps BuffersNone (enterQuery q >>= fun _ => Action.read f) :=
  Action.keeps_bind chains_buffersNone (keeps_buffersNone_enterQuery q) fun _ =>
    Action.keeps_read chains_buffersNone f

theorem mem_records_foldl_replace {l : List (Key × Option Entity)} {s : Store} {key : Key}
    (stored : key ∈ (l.foldl (fun s write => s.replace write.1 write.2) s).records) :
    key ∈ s.records ∨ ∃ e, (key, some e) ∈ l := by
  induction l generalizing s with
  | nil => exact .inl stored
  | cons write l ih =>
      rcases ih stored with before | ⟨e, later⟩
      · rw [Std.ExtTreeMap.mem_iff_isSome_getElem?, Store.getElem?_replace] at before
        split at before
        · rename_i same
          obtain ⟨_, e⟩ := write
          cases same
          obtain ⟨e', rfl⟩ := Option.isSome_iff_exists.mp (by simpa using before : e.isSome)
          exact .inr ⟨e', List.mem_cons_self⟩
        · exact .inl (Std.ExtTreeMap.mem_iff_isSome_getElem?.mpr before)
      · exact .inr ⟨e, List.mem_cons_of_mem _ later⟩

theorem nextId_foldl_replace (l : List (Key × Option Entity)) (s : Store) :
    (l.foldl (fun s write => s.replace write.1 write.2) s).nextId = s.nextId := by
  induction l generalizing s with
  | nil => rfl
  | cons write l ih =>
      rw [List.foldl_cons, ih]
      cases write.2 <;> rfl

/-- A commit hands out no ids and stores records of buffered keys only. -/
theorem commit_snd_cases (t : Transaction) (s : Store) :
    (t.commit s).2.nextId = s.nextId ∧ ∀ key ∈ (t.commit s).2.records,
      key ∈ s.records ∨ ∃ e, t.writes[key]? = some (some e) := by
  have applied : (t.applyWrites s).nextId = s.nextId ∧ ∀ key ∈ (t.applyWrites s).records,
      key ∈ s.records ∨ ∃ e, t.writes[key]? = some (some e) := by
    rw [applyWrites, Std.ExtTreeMap.foldl_eq_foldl_toList]
    refine ⟨nextId_foldl_replace _ s, ?_⟩
    intro key stored
    rcases mem_records_foldl_replace stored with before | ⟨e, buffered⟩
    · exact .inl before
    · exact .inr ⟨e, Std.ExtTreeMap.mem_toList_iff_getElem?_eq_some.mp buffered⟩
  unfold commit
  split
  · exact ⟨rfl, fun key stored => .inl stored⟩
  · split
    · dsimp only
      split
      · exact applied
      · exact applied
    · exact ⟨rfl, fun key stored => .inl stored⟩

/-- What a put inside a transaction makes of the transaction and the store. -/
theorem runOn_perform_put (options : CallOptions) (es : List Entity) (state : OnStore) :
    ((Call.perform storage options (.put es)).runOn state).2 =
      ((es.mapM putOne).runOn state).2 := by
  simp only [Call.perform, storage, Action.runOn_map]

theorem runOn_perform_allocateIds (options : CallOptions) (key : Key) (count : Nat)
    (state : OnStore) :
    ((Call.perform storage options (.allocateIds key count)).runOn state).2 =
      (state.1, ((Store.allocate count).runOn state.2).2) := by
  simp only [Call.perform, storage, Action.runOn_map]
  rfl

/-- Whether all stored keys and all keys of buffered records have a property. -/
structure Stocks (P : Store → Key → Prop) (state : OnStore) : Prop where
  stored : state.2.Stocks P
  buffered : ∀ (key : Key) (e : Entity), state.1.writes[key]? = some (some e) → P state.2 key

variable {state after : OnStore}

theorem Stocks.of_buffersNone (stocks : Stocks P state) (none : BuffersNone state after) :
    Stocks P after where
  stored := none.store_eq ▸ stocks.stored
  buffered key e buffered := none.store_eq ▸ stocks.buffered key e (none.buffered key e buffered)

/-- The transaction goes on while the store hands out ids. -/
theorem Stocks.of_untouched (lasts : Store.Lasts P) {t : Transaction} {s s' : Store}
    (stocks : Stocks P (t, s)) (untouched : s.Untouched s') (le : s.nextId ≤ s'.nextId) :
    Stocks P (t, s') where
  stored := stocks.stored.of_untouched lasts untouched le
  buffered key e buffered := lasts.mono le (stocks.buffered key e buffered)

theorem store_writeOne (key : Key) (e : Option Entity) (state : OnStore) :
    ((writeOne key e).runOn state).2.2 = state.2 := by
  have entering := keeps_buffersNone_enterGroup key state
  rw [Transaction.writeOne, Action.runOn_bind]
  rcases entered : (enterGroup key).runOn state with ⟨_ | _, t, s⟩
  · rw [entered] at entering
    exact entering.store_eq
  · rw [entered] at entering
    exact entering.store_eq

theorem Stocks.writeOne (stocks : Stocks P state) {key : Key} (has : P state.2 key)
    (e : Option Entity) : Stocks P ((writeOne key e).runOn state).2 := by
  have entering := keeps_buffersNone_enterGroup key state
  rw [Transaction.writeOne, Action.runOn_bind]
  rcases entered : (enterGroup key).runOn state with ⟨_ | _, t, s⟩
  · rw [entered] at entering
    exact stocks.of_buffersNone entering
  · rw [entered] at entering
    rcases entering with ⟨same, buffered⟩
    cases same
    refine ⟨stocks.stored, ?_⟩
    intro key' e' found
    change (t.writes.insert key e)[key']? = some (some e') at found
    rw [Std.ExtTreeMap.getElem?_insert] at found
    split at found
    · rename_i same
      rw [← Std.LawfulEqOrd.eq_of_compare same]
      exact has
    · exact stocks.buffered key' e' (buffered key' e' found)

theorem Stocks.putOne (lasts : Store.Lasts P) (stocks : Stocks P state) {e : Entity}
    (enters : e.Enters P state.2) :
    Stocks P ((putOne e).runOn state).2 ∧
      state.2.nextId ≤ ((putOne e).runOn state).2.2.nextId := by
  obtain ⟨t, s⟩ := state
  have untouched := Store.keeps_complete e.key s
  rcases answered : (Store.complete e.key).runOn s with ⟨error | key, s'⟩
  · cases Store.eq_of_complete_error answered
    simp only [Transaction.putOne, Action.on, Part.second, Action.runOn_bind,
      Action.runOn_ofFunction, answered]
    exact ⟨stocks, Int64.le_refl _⟩
  · rw [answered] at untouched
    have le := (Store.completes_of_runOn answered).le
    have completed : Stocks P (t, s') := stocks.of_untouched lasts untouched le
    have written := completed.writeOne (enters key s' answered) (some { e with key })
    have same := store_writeOne key (some { e with key }) (t, s')
    simp only [Transaction.putOne, Action.on, Part.second, Action.runOn_bind,
      Action.runOn_ofFunction, answered]
    rcases wrote : (Transaction.writeOne key (some { e with key })).runOn (t, s') with
      ⟨_ | _, after⟩
    all_goals
      rw [wrote] at written same
      refine ⟨written, ?_⟩
      change s.nextId ≤ after.2.nextId
      rw [same]
      exact le

theorem Stocks.put (lasts : Store.Lasts P) (stocks : Stocks P state) {es : List Entity}
    (enters : ∀ e state', Action.Reaches Transaction.putOne es state e state' →
      e.Enters P state'.2) :
    (Stocks P ((es.mapM Transaction.putOne).runOn state).2 ∧
        state.2.nextId ≤ ((es.mapM Transaction.putOne).runOn state).2.2.nextId) ∧
      ∀ e state', Action.Reaches Transaction.putOne es state e state' → Stocks P state' := by
  have kept := Action.invariant_mapM
    (fun state' => Stocks P state' ∧ state.2.nextId ≤ state'.2.nextId)
    (fun e state' reaches holds =>
      have put := holds.1.putOne lasts (enters e state' reaches)
      ⟨put.1, Int64.le_trans holds.2 put.2⟩)
    ⟨stocks, Int64.le_refl _⟩
  exact ⟨kept.1, fun e state' reaches => (kept.2 e state' reaches).1⟩

end Transaction

/-! ## Runs -/

namespace World

variable {w : World} {i : Nat}

/-- Whether all keys have a property under which a record is stored or buffered. -/
def Stocks (P : Store → Key → Prop) (w : World) : Prop :=
  ∀ i, Transaction.Stocks P (w.view i)

theorem stocks_ofStore {s : Store} (stocks : s.Stocks P) : (ofStore s).Stocks P := by
  intro i
  refine ⟨stocks, ?_⟩
  intro key e buffered
  change (∅ : Std.ExtTreeMap Key (Option Entity))[key]? = _ at buffered
  simp at buffered

theorem stocks_empty : (ofStore {}).Stocks P :=
  stocks_ofStore fun _ stored => absurd stored Std.ExtTreeMap.not_mem_empty

theorem Stocks.store (stocks : w.Stocks P) : w.store.Stocks P :=
  (stocks 0).stored

theorem Stocks.of_store (lasts : Store.Lasts P) (stocks : w.Stocks P) {s : Store}
    (after : s.Stocks P) (le : w.store.nextId ≤ s.nextId) : Stocks P { w with store := s } :=
  fun i => ⟨after, fun key e buffered => lasts.mono le ((stocks i).buffered key e buffered)⟩

theorem Stocks.of_change (lasts : Store.Lasts P) (stocks : w.Stocks P)
    {state : Transaction.OnStore} (after : Transaction.Stocks P state)
    (le : w.store.nextId ≤ state.2.nextId) : (w.change i state).Stocks P := by
  intro j
  refine ⟨after.stored, ?_⟩
  intro key e buffered
  rcases Decidable.em (j = i) with rfl | other
  · rw [view, transactions_change_self] at buffered
    exact after.buffered key e buffered
  · rw [view, transactions_change_of_ne w other] at buffered
    exact lasts.mono le ((stocks j).buffered key e buffered)

/-- The store has the property whenever an event puts a record. -/
theorem Stocks.of_puts (lasts : Store.Lasts P) (stocks : w.Stocks P) {event : Event}
    (enters : ∀ e s, event.Puts w e s → e.Enters P s) {e : Entity} {s : Store}
    (puts : event.Puts w e s) : s.Stocks P := by
  cases event with
  | direct call options =>
      cases call with
      | put es => exact (stocks.store.put lasts enters).2 e s puts
      | _ => exact puts.elim
  | inside i call options =>
      cases call with
      | put es =>
          rcases puts with ⟨t, reaches⟩
          have moments := (stocks i).put lasts fun e state reaches =>
            enters e state.2 ⟨state.1, reaches⟩
          exact (moments.2 e (t, s) reaches).stored
      | _ => exact puts.elim
  | commit i => exact puts.elim

/-- What leads from a world to a later one without a new key: what is stored or buffered then was
stored or buffered before. -/
structure AddsNoKey (w w' : World) : Prop where
  le : w.store.nextId ≤ w'.store.nextId
  stored : ∀ key ∈ w'.store.records,
    key ∈ w.store.records ∨ ∃ i e, (w.transactions i).writes[key]? = some (some e)
  buffered : ∀ (i : Nat) (key : Key) (e : Entity),
    (w'.transactions i).writes[key]? = some (some e) →
      (w.transactions i).writes[key]? = some (some e)

theorem addsNoKey_of_store {s : Store} (le : w.store.nextId ≤ s.nextId)
    (subset : ∀ key ∈ s.records, key ∈ w.store.records) : w.AddsNoKey { w with store := s } :=
  ⟨le, fun key stored => .inl (subset key stored), fun _ _ _ buffered => buffered⟩

theorem addsNoKey_of_change {state : Transaction.OnStore} (le : w.store.nextId ≤ state.2.nextId)
    (subset : ∀ key ∈ state.2.records, key ∈ w.store.records)
    (buffered : ∀ (key : Key) (e : Entity), state.1.writes[key]? = some (some e) →
      (w.transactions i).writes[key]? = some (some e)) : w.AddsNoKey (w.change i state) := by
  refine ⟨le, fun key stored => .inl (subset key stored), fun j key e found => ?_⟩
  rcases Decidable.em (j = i) with rfl | other
  · rw [transactions_change_self] at found
    exact buffered key e found
  · rwa [transactions_change_of_ne w other] at found

theorem addsNoKey_of_buffersNone {state : Transaction.OnStore}
    (none : Transaction.BuffersNone (w.view i) state) : w.AddsNoKey (w.change i state) :=
  addsNoKey_of_change (Int64.le_of_eq (congrArg Store.nextId none.store_eq).symm)
    (fun key stored => by rwa [none.store_eq] at stored) none.buffered

theorem addsNoKey_commit (w : World) (i : Nat) : w.AddsNoKey (w.step (.commit i)) := by
  rcases (w.transactions i).commit_snd_cases w.store with ⟨next, stored⟩
  refine ⟨Int64.le_of_eq next.symm, fun key found => ?_, fun _ _ _ buffered => buffered⟩
  rcases stored key found with before | ⟨e, buffered⟩
  · exact .inl before
  · exact .inr ⟨i, e, buffered⟩

/-- Every event puts records one after the other, outside of transactions or inside one, or it
brings in no new key. -/
theorem step_cases (w : World) (event : Event) :
    (∃ es options, event = .direct (.put es) options ∧
      w.step event = { w with store := ((es.mapM Store.putOne).runOn w.store).2 }) ∨
    (∃ i es options, event = .inside i (.put es) options ∧
      w.step event = w.change i ((es.mapM Transaction.putOne).runOn (w.view i)).2) ∨
    w.AddsNoKey (w.step event) := by
  cases event with
  | direct call options =>
      have after := Store.runOn_perform_snd options call w.store
      rw [World.step, after]
      cases call with
      | put es => exact .inl ⟨es, options, rfl, rfl⟩
      | allocateIds key count =>
          right; right
          have untouched := Store.keeps_allocate count w.store
          exact addsNoKey_of_store (Store.le_nextId_allocate count w.store) fun key stored => by
            rwa [untouched.records] at stored
      | delete keys =>
          right; right
          rcases w.store.delete_spec keys with ⟨next, subset⟩
          exact addsNoKey_of_store (Int64.le_of_eq next.symm) subset
      | get keys | runQuery q window | count q limit =>
          exact .inr (.inr (addsNoKey_of_store (Int64.le_refl _) fun _ stored => stored))
  | inside i call options =>
      rw [World.step]
      cases call with
      | put es =>
          rw [Transaction.runOn_perform_put]
          exact .inr (.inl ⟨i, es, options, rfl, rfl⟩)
      | allocateIds key count =>
          right; right
          rw [Transaction.runOn_perform_allocateIds]
          have untouched := Store.keeps_allocate count w.store
          exact addsNoKey_of_change (Store.le_nextId_allocate count w.store)
            (fun key stored => by rwa [← untouched.records]) fun _ _ buffered => buffered
      | delete keys =>
          exact .inr (.inr (addsNoKey_of_buffersNone
            (Action.keeps_forM Transaction.chains_buffersNone
              Transaction.keeps_buffersNone_deleteOne keys (w.view i))))
      | get keys =>
          exact .inr (.inr (addsNoKey_of_buffersNone (Action.keeps_map _ (Action.keeps_mapM
            Transaction.chains_buffersNone Transaction.keeps_buffersNone_getOne keys) (w.view i))))
      | runQuery q window | count q limit =>
          exact .inr (.inr (addsNoKey_of_buffersNone (Action.keeps_map _
            (Transaction.keeps_buffersNone_ask q _) (w.view i))))
  | commit i => exact .inr (.inr (w.addsNoKey_commit i))

theorem Stocks.of_addsNoKey (lasts : Store.Lasts P) (stocks : w.Stocks P) {w' : World}
    (addsNone : w.AddsNoKey w') : w'.Stocks P := by
  intro i
  constructor
  · intro key found
    rcases addsNone.stored key found with before | ⟨j, e, buffered⟩
    · exact lasts.mono addsNone.le (stocks.store key before)
    · exact lasts.mono addsNone.le ((stocks j).buffered key e buffered)
  · intro key e buffered
    exact lasts.mono addsNone.le ((stocks i).buffered key e (addsNone.buffered i key e buffered))

/-- Every event leaves all keys with the property, if its puts make sure of it, and takes back no
id. -/
theorem Stocks.step (lasts : Store.Lasts P) (stocks : w.Stocks P) {event : Event}
    (enters : ∀ e s, event.Puts w e s → e.Enters P s) :
    (w.step event).Stocks P ∧ w.store.nextId ≤ (w.step event).store.nextId := by
  rcases w.step_cases event with ⟨es, options, rfl, after⟩ | ⟨i, es, options, rfl, after⟩ | addsNone
  · rcases (stocks.store.put lasts enters).1 with ⟨stored, le⟩
    rw [after]
    exact ⟨stocks.of_store lasts stored le, le⟩
  · rcases ((stocks i).put lasts fun e state reaches =>
      enters e state.2 ⟨state.1, reaches⟩).1 with ⟨stored, le⟩
    rw [after]
    exact ⟨stocks.of_change lasts stored le, le⟩
  · exact ⟨stocks.of_addsNoKey lasts addsNone, addsNone.le⟩

/-- Along a run, all keys have the property whenever a record is put, and in the end. -/
theorem Stocks.run (lasts : Store.Lasts P) (stocks : w.Stocks P) {events : List Event}
    (enters : ∀ e s, w.Puts events e s → e.Enters P s) :
    (w.run events).Stocks P ∧ ∀ e s, w.Puts events e s → s.Stocks P := by
  induction events generalizing w with
  | nil => exact ⟨stocks, fun _ _ puts => puts.elim⟩
  | cons event events inductionHypothesis =>
      have entersNow : ∀ e s, event.Puts w e s → e.Enters P s :=
        fun e s puts => enters e s (.inl puts)
      rcases inductionHypothesis (stocks.step lasts entersNow).1
        fun e s puts => enters e s (.inr puts) with ⟨final, later⟩
      refine ⟨final, ?_⟩
      rintro e s (puts | puts)
      · exact stocks.of_puts lasts entersNow puts
      · exact later e s puts

end World

end EntityStore
