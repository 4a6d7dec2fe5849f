import EntityStore.Proofs.Client.GetOrInsert
import EntityStore.Proofs.Model.Record
import EntityStore.Proofs.Store.Attempt

/-!
# What the steps of `getOrInsert` do

Looking an instance up pins its group.  When nothing is found, nothing is stored under the key for
as long as the pin stands, so the commit of the new record goes through only where there still is
none.  What a call knows between two steps outlives whatever else happens to the store, provided
that a record of the key, once it is there, stays as it is.
-/

namespace EntityStore

/-- What a step of a call finds around it. -/
structure Surroundings where
  registry : Registry
  moment : Moment
  configuration : Configuration

/-- The client that a step uses, whose calls wait for the store. -/
def Surroundings.client (around : Surroundings) (wait : Nat := 0) : Client Store Transaction where
  datastore := Store.datastore .whole 0 wait
  registry _ := around.registry
  moment := pure around.moment
  configuration := around.configuration

/-- The client that a step of the body uses. -/
def Surroundings.inner (around : Surroundings) : Client (Transaction × Store) Empty :=
  around.client.inside (Transaction.storage.on (Transaction.partOf .whole))

namespace Client

variable {goal : Goal} {around : Surroundings} {key : Key} {t : Transaction} {s : Store}

/-- A transaction that has pinned the group of a key and done nothing else. -/
def pin (key : Key) (s : Store) : Transaction where
  group := some key.root
  version := s.version key.root

theorem runOn_moment (state : Transaction × Store) :
    around.inner.moment.runOn state = (.ok around.moment, state) :=
  rfl

theorem runOn_loadAs {schema : Schema} {e : Entity} (kind : e.kind = schema.kind)
    (state : Transaction × Store) :
    (around.inner.loadAs schema e).runOn state =
      ((Model.fromEntity schema e around.moment).mapError .failure, state) := by
  have within : schema.isSubkindOf schema.kind = true := by
    simp [Schema.isSubkindOf]
  simp only [loadAs, kind, ↓reduceIte, pure_bind, within, Bool.not_true, Bool.false_eq_true,
    Action.runOn_bind, Action.runOn_read, Action.runOn_lift, runOn_moment]

/-- Looking up pins the group and answers the stored instance. -/
theorem runOn_findBy (addressed : goal.key = .ok key) (s : Store) :
    (around.inner.findBy goal.schema (.name goal.name) goal.parent).runOn ({}, s) =
      ((match s.records[key]? with
        | none => .ok none
        | some e => ((Model.fromEntity goal.schema e around.moment).map some).mapError .failure),
        (pin key s, s)) := by
  have kindOf : ∀ e, s.records[key]? = some e → e.kind = goal.schema.kind := by
    intro e stored
    rw [Entity.kind, s.keyed key e stored]
    exact Key.kind_of_build addressed
  have got : (around.inner.datastore.get [key] around.inner.options).runOn ({}, s) =
      (.ok [s.records[key]?], (pin key s, s)) :=
    rfl
  rw [Goal.key] at addressed
  simp only [findBy, find, findMany, Action.runOn_bind, Action.runOn_lift, addressed,
    Except.mapError, got]
  cases found : s.records[key]? with
  | none => rfl
  | some e =>
    simp only [List.mapM_cons, List.mapM_nil, onRecord, Action.runOn_bind, Action.runOn_map,
      runOn_loadAs (kindOf e found), Action.runOn_pure]
    cases Model.fromEntity goal.schema e around.moment <;> rfl

theorem runOn_findBy_of_error {cause : Failure} (unaddressed : goal.key = .error cause)
    (state : Transaction × Store) :
    (around.inner.findBy goal.schema (.name goal.name) goal.parent).runOn state =
      (.error (.failure cause), state) := by
  rw [Goal.key] at unaddressed
  simp only [findBy, Action.runOn_bind, Action.runOn_lift, unaddressed, Except.mapError]

theorem runOn_build (b : Builder) (state : Transaction × Store) :
    (around.inner.build b).runOn state = ((b.build around.moment).mapError .failure, state) := by
  simp only [build, Action.runOn_bind, runOn_moment, Action.runOn_lift]

theorem runOn_put_of_error {m : Model} {cause : Failure}
    (recorded : m.toEntity around.moment = .error cause) (state : Transaction × Store) :
    (around.inner.put m).runOn state = (.error (.failure cause), state) := by
  simp only [put, record, Action.runOn_bind, runOn_moment, Action.runOn_lift, recorded,
    Except.mapError]

/-- Putting a named instance in the pinned group buffers its record. -/
theorem runOn_put {m : Model} {e : Entity} {name : String} (pinned : t.group = some e.key.root)
    (named : e.key.id? = some (.name name)) (recorded : m.toEntity around.moment = .ok e) :
    (around.inner.put m).runOn (t, s) =
      (.ok (m.markSaved e e.key, e.key), (t.buffer e.key (some e), s)) := by
  have placed : (around.inner.datastore.put [e] around.inner.options).runOn (t, s) =
      (.ok [e.key], (t.buffer e.key (some e), s)) := by
    change ([e].mapM Transaction.putOne).runOn (t, s) = _
    simp [Action.runOn_bind, Transaction.putOne, Transaction.writeOne, Transaction.enterGroup,
      Store.complete, named, pinned, Action.on, Part.second, Except.map]
  simp only [put, record, Action.runOn_bind, runOn_moment, Action.runOn_lift, recorded,
    Except.mapError, placed, Action.runOn_pure]

end Client

/-! ## What holds between the steps of a call -/

/-- A store and a later one in which the record of a key, if there was one, is still the same. -/
structure Store.Spares (key : Key) (s s' : Store) : Prop where
  advances : s.Advances s'
  keeps : ∀ e, s.records[key]? = some e → s'.records[key]? = some e

theorem Store.Spares.refl (key : Key) (s : Store) : Spares key s s :=
  ⟨chains_advances.refl s, fun _ stored => stored⟩

/-- An instance that a call with some values creates, and its record. -/
def Goal.Creates (goal : Goal) (values : List (String × Value)) (m : Model) (e : Entity) : Prop :=
  ∃ created saved built, (goal.builder values).build created = .ok built ∧
    built.toEntity saved = .ok e ∧ m = built.markSaved e e.key

/-- An instance that a call with some values may return when a record is stored: it was loaded from
the record, or the record is its own. -/
def Goal.Shows (goal : Goal) (values : List (String × Value)) (m : Model) (e : Entity) : Prop :=
  (∃ loaded, Model.fromEntity goal.schema e loaded = .ok m) ∨ goal.Creates values m e

/-- Either way the instance has the record. -/
theorem Goal.Shows.entity_eq {goal : Goal} {key : Key} (addressed : goal.key = .ok key)
    {values : List (String × Value)} {m : Model} {e : Entity} (shows : goal.Shows values m e)
    (keyed : e.key = key) : m.entity = some e := by
  subst keyed
  rcases shows with ⟨loaded, loads⟩ | ⟨_, _, built, -, -, rfl⟩
  · have identified : e.key.hasIdentifier = true := by
      rw [Key.hasIdentifier, Key.id?_of_build addressed, Option.isSome_some]
    simp only [Model.fromEntity, Failure.guard_eq_ok_iff, Failure.pure_eq_ok_iff] at loads
    obtain ⟨-, rfl⟩ := loads
    exact if_pos identified
  · rfl

theorem Goal.writeKey_of_build {goal : Goal} {values : List (String × Value)} {moment : Moment}
    {m : Model} (built : (goal.builder values).build moment = .ok m) : m.writeKey = goal.key := by
  obtain ⟨schemaEq, unsaved, addressed⟩ := Builder.fresh_of_build built
  have pending : m.identity = .pending (some goal.name) goal.parent := by
    obtain ⟨parent, parentEq, addressed⟩ := Failure.exists_of_bind_eq_ok addressed
    obtain ⟨-, -, identityEq⟩ := Failure.exists_of_bind_eq_ok addressed
    have same : parent = goal.parent := by
      unfold Builder.parentKey Goal.builder Client.named at parentEq
      cases above : goal.parent <;> rw [above] at parentEq <;> cases parentEq <;> rfl
    rw [← Failure.pure_eq_ok_iff.mp identityEq, same]
    rfl
  simp only [Model.writeKey, unsaved, pending, Model.kind, schemaEq]
  rfl

/-- What a call writes has the key that it is about. -/
theorem Goal.key_eq_of_toEntity {goal : Goal} {key : Key} (addressed : goal.key = .ok key)
    {values : List (String × Value)} {created saved : Moment} {m : Model} {e : Entity}
    (built : (goal.builder values).build created = .ok m) (recorded : m.toEntity saved = .ok e) :
    e.key = key := by
  have keyed := Model.writeKey_of_toEntity recorded
  rw [Goal.writeKey_of_build built, addressed] at keyed
  exact (Except.ok.inj keyed).symm

/-- A transaction that found nothing under a key: nothing is stored there while its pin stands. -/
structure Transaction.Vacant (key : Key) (t : Transaction) (s : Store) : Prop where
  pinned : t.group = some key.root
  version_le : t.version ≤ s.version key.root
  vacant : s.version key.root = t.version → s.records[key]? = none

theorem Transaction.Vacant.of_spares {key : Key} {t : Transaction} {s s' : Store}
    (vacant : t.Vacant key s) (spares : Store.Spares key s s') : t.Vacant key s' where
  pinned := vacant.pinned
  version_le := Nat.le_trans vacant.version_le (spares.advances.version_le _)
  vacant current := by
    have before := vacant.version_le
    have grown := spares.advances.version_le key.root
    rw [spares.advances.records_eq key (by omega)]
    exact vacant.vacant (by omega)

namespace Caller

/-- What a call between two steps knows about the store. -/
inductive Fits (goal : Goal) (key : Key) (s : Store) : Caller → Prop where
  | looking (values : List (String × Value)) (retries : Nat) : Fits goal key s { values, retries }
  | absent (values : List (String × Value)) (retries : Nat) (t : Transaction)
      (vacant : t.Vacant key s) (idle : t.writes = ∅) :
      Fits goal key s ⟨values, retries, .absent, t⟩
  | built (values : List (String × Value)) (retries : Nat) (t : Transaction) (created : Moment)
      (m : Model) (vacant : t.Vacant key s) (idle : t.writes = ∅)
      (built : (goal.builder values).build created = .ok m) :
      Fits goal key s ⟨values, retries, .built m, t⟩
  /-- The body has found the stored record. -/
  | found (values : List (String × Value)) (retries : Nat) (t : Transaction) (loaded : Moment)
      (m : Model) (e : Entity) (idle : t.writes = ∅) (stored : s.records[key]? = some e)
      (loads : Model.fromEntity goal.schema e loaded = .ok m) :
      Fits goal key s ⟨values, retries, .ended m, t⟩
  /-- The body has put a record. -/
  | made (values : List (String × Value)) (retries : Nat) (t : Transaction) (m : Model)
      (e : Entity) (vacant : t.Vacant key s)
      (buffered : t.writes = (∅ : Std.ExtTreeMap _ _).insert key (some e))
      (creates : goal.Creates values m e) :
      Fits goal key s ⟨values, retries, .ended m, t⟩
  | returned (values : List (String × Value)) (retries : Nat) (t : Transaction) (m : Model)
      (e : Entity) (stored : s.records[key]? = some e)
      (shows : goal.Shows values m e) :
      Fits goal key s ⟨values, retries, .returned m, t⟩
  | failed (values : List (String × Value)) (retries : Nat) (t : Transaction)
      (cause : Interruption) :
      Fits goal key s ⟨values, retries, .failed cause, t⟩

variable {goal : Goal} {key : Key} {s s' : Store} {caller : Caller} {around : Surroundings}

theorem Fits.of_spares (fits : Fits goal key s caller) (spares : Store.Spares key s s') :
    Fits goal key s' caller := by
  cases fits with
  | looking values retries => exact .looking values retries
  | absent values retries t vacant idle => exact .absent _ _ t (vacant.of_spares spares) idle
  | built values retries t created m vacant idle built =>
    exact .built _ _ t created m (vacant.of_spares spares) idle built
  | found values retries t loaded m e idle stored loads =>
    exact .found _ _ t loaded m e idle (spares.keeps e stored) loads
  | made values retries t m e vacant buffered creates =>
    exact .made _ _ t m e (vacant.of_spares spares) buffered creates
  | returned values retries t m e stored shows =>
    exact .returned _ _ t m e (spares.keeps e stored) shows
  | failed values retries t cause => exact .failed _ _ t cause

/-- Whether the next step commits a write of a key. -/
def writes (key : Key) (caller : Caller) (s : Store) : Bool :=
  match caller.phase with
  | .ended _ => (caller.transaction.commit s).1 && caller.transaction.writes.contains key
  | _ => false

/-- What one step of a call does. -/
structure Stepped (goal : Goal) (key : Key) (caller : Caller) (s : Store)
    (state : Caller × Store) : Prop where
  values_eq : state.1.values = caller.values
  spares : Store.Spares key s state.2
  fits : Fits goal key state.2 state.1
  /-- The record of the key is written where there was none, or stays as it is. -/
  record : if caller.writes key s = true then
      s.records[key]? = none ∧
        ∃ m e, goal.Creates caller.values m e ∧ state.2.records[key]? = some e
    else state.2.records[key]? = s.records[key]?

/-- A step that leaves the store alone. -/
theorem Stepped.of_fits {caller' : Caller} (silent : caller.writes key s = false)
    (same : caller'.values = caller.values) (fits : Fits goal key s caller') :
    Stepped goal key caller s (caller', s) where
  values_eq := same
  spares := .refl key s
  fits := fits
  record := by simp [silent]

theorem writes_of_ended {values : List (String × Value)} {retries : Nat} {m : Model}
    {t : Transaction} :
    writes key ⟨values, retries, .ended m, t⟩ s =
      ((t.commit s).1 && t.writes.contains key) :=
  rfl

/-- A call whose commit was refused fails or starts again. -/
theorem Fits.conclude_of_refused (values : List (String × Value)) (retries : Nat) (m m' : Model)
    (t : Transaction) :
    Fits goal key s (conclude ⟨values, retries, .ended m', t⟩ m false) := by
  cases retries with
  | zero => exact .failed ..
  | succ retries => exact .looking ..

theorem vacant_pin (absent : s.records[key]? = none) : (Client.pin key s).Vacant key s where
  pinned := rfl
  version_le := Nat.le_refl _
  vacant _ := absent

theorem stepped_looking (addressed : goal.key = .ok key) (values : List (String × Value))
    (retries : Nat) :
    Stepped goal key { values, retries } s
      (step goal around.client .whole { values, retries } s) := by
  change Stepped goal key _ s (proceed _
    (around.inner.findBy goal.schema (.name goal.name) goal.parent) _ s)
  rw [proceed, Client.runOn_findBy addressed]
  cases found : s.records[key]? with
  | none => exact .of_fits rfl rfl (.absent _ _ _ (vacant_pin found) rfl)
  | some e =>
    dsimp only
    cases loads : Model.fromEntity goal.schema e around.moment with
    | error cause => exact .of_fits rfl rfl (.failed ..)
    | ok m => exact .of_fits rfl rfl (.found _ _ _ around.moment m e rfl found loads)

theorem stepped_absent (values : List (String × Value)) (retries : Nat) {t : Transaction}
    (vacant : t.Vacant key s) (idle : t.writes = ∅) :
    Stepped goal key ⟨values, retries, .absent, t⟩ s
      (step goal around.client .whole ⟨values, retries, .absent, t⟩ s) := by
  change Stepped goal key _ s (proceed _ (around.inner.build (goal.builder values)) _ s)
  rw [proceed, Client.runOn_build]
  cases built : (goal.builder values).build around.moment with
  | error cause => exact .of_fits rfl rfl (.failed ..)
  | ok m => exact .of_fits rfl rfl (.built _ _ t around.moment m vacant idle built)

theorem stepped_built (addressed : goal.key = .ok key) (values : List (String × Value))
    (retries : Nat) {t : Transaction} {created : Moment} {m : Model} (vacant : t.Vacant key s)
    (idle : t.writes = ∅) (built : (goal.builder values).build created = .ok m) :
    Stepped goal key ⟨values, retries, .built m, t⟩ s
      (step goal around.client .whole ⟨values, retries, .built m, t⟩ s) := by
  change Stepped goal key _ s (proceed _ (around.inner.put m) _ s)
  rw [proceed]
  cases recorded : m.toEntity around.moment with
  | error cause =>
    rw [Client.runOn_put_of_error recorded]
    exact .of_fits rfl rfl (.failed ..)
  | ok e =>
    obtain rfl := Goal.key_eq_of_toEntity addressed built recorded
    rw [Client.runOn_put vacant.pinned (Key.id?_of_build addressed) recorded]
    refine .of_fits rfl rfl (.made _ _ _ _ e ⟨vacant.pinned, vacant.version_le, vacant.vacant⟩ ?_
      ⟨created, around.moment, m, built, recorded, rfl⟩)
    rw [Transaction.buffer, idle]

/-- An instance that was found is returned as it is, or the call starts again. -/
theorem stepped_found (values : List (String × Value)) (retries : Nat) {t : Transaction}
    {loaded : Moment} {m : Model} {e : Entity} (idle : t.writes = ∅)
    (stored : s.records[key]? = some e)
    (loads : Model.fromEntity goal.schema e loaded = .ok m) :
    Stepped goal key ⟨values, retries, .ended m, t⟩ s
      (step goal around.client .whole ⟨values, retries, .ended m, t⟩ s) := by
  have state : step goal around.client .whole ⟨values, retries, .ended m, t⟩ s =
      (conclude ⟨values, retries, .ended m, t⟩ m (t.commit s).1, s) := by
    change (_, (t.commit s).2) = _
    rw [Transaction.commit_snd_of_idle idle]
    rfl
  rw [state]
  refine .of_fits ?_ ?_ ?_
  · rw [writes_of_ended, idle]
    simp
  · exact values_conclude _ m _
  · cases (t.commit s).1 with
    | true => exact .returned _ _ t m e stored (.inl ⟨loaded, loads⟩)
    | false => exact .conclude_of_refused ..

/-- A record that was put is stored where there was none, or the call starts again. -/
theorem stepped_made (addressed : goal.key = .ok key) (values : List (String × Value))
    (retries : Nat) {t : Transaction} {m : Model} {e : Entity} (vacant : t.Vacant key s)
    (buffered : t.writes = (∅ : Std.ExtTreeMap _ _).insert key (some e))
    (creates : goal.Creates values m e) :
    Stepped goal key ⟨values, retries, .ended m, t⟩ s
      (step goal around.client .whole ⟨values, retries, .ended m, t⟩ s) := by
  change Stepped goal key _ s
    (conclude ⟨values, retries, .ended m, t⟩ m (t.commit s).1, (t.commit s).2)
  cases committed : (t.commit s).1 with
  | false =>
    rw [Transaction.commit_snd_of_refused (by simp [committed])]
    refine .of_fits ?_ ?_ (.conclude_of_refused ..)
    · rw [writes_of_ended, committed, Bool.false_and]
    · exact values_conclude _ m false
  | true =>
    have absent := vacant.vacant ((Transaction.commit_fst_iff vacant.pinned s).mp committed)
    have confined : t.Confined := by
      intro key' member
      rw [buffered, Std.ExtTreeMap.mem_insert] at member
      rcases member with same | member
      · rw [← Std.LawfulEqOrd.eq_of_compare same]
        exact vacant.pinned
      · exact absurd member Std.ExtTreeMap.not_mem_empty
    have stored : (t.commit s).2.records[key]? = some e := by
      obtain ⟨_, _, m, built, recorded, -⟩ := creates
      obtain rfl := Goal.key_eq_of_toEntity addressed built recorded
      exact Transaction.getElem?_commit_of_buffered vacant.pinned (e := some e)
        (by simp [buffered]) committed
    refine ⟨rfl, ⟨Transaction.advances_commit confined s, ?_⟩, ?_, ?_⟩
    · intro e' before
      cases absent.symm.trans before
    · exact .returned _ _ t m e stored (.inr creates)
    · rw [if_pos (by rw [writes_of_ended, committed, buffered]; simp)]
      exact ⟨absent, m, e, creates, stored⟩

theorem Fits.step (around : Surroundings) (addressed : goal.key = .ok key)
    (fits : Fits goal key s caller) :
    Stepped goal key caller s (caller.step goal around.client .whole s) := by
  cases fits with
  | looking values retries => exact stepped_looking addressed values retries
  | absent values retries t vacant idle => exact stepped_absent values retries vacant idle
  | built values retries t created m vacant idle built =>
    exact stepped_built addressed values retries vacant idle built
  | found values retries t loaded m e idle stored loads =>
    exact stepped_found values retries idle stored loads
  | made values retries t m e vacant buffered creates =>
    exact stepped_made addressed values retries vacant buffered creates
  | returned values retries t m e stored shows =>
    exact .of_fits rfl rfl (.returned _ _ t m e stored shows)
  | failed values retries t cause => exact .of_fits rfl rfl (.failed _ _ t cause)

/-- What a call has returned is the stored instance. -/
theorem Fits.shows_of_returned {m : Model} (fits : Fits goal key s caller)
    (ended : caller.phase = .returned m) :
    ∃ e, s.records[key]? = some e ∧ goal.Shows caller.values m e := by
  cases fits with
  | returned values retries t m' e stored shows =>
    cases ended
    exact ⟨e, stored, shows⟩
  | looking | absent | built | found | made | failed => cases ended

/-- A call that has found nothing out. -/
inductive Early : Caller → Prop where
  | looking (values : List (String × Value)) (retries : Nat) : Early { values, retries }
  | failed (values : List (String × Value)) (retries : Nat) (t : Transaction)
      (cause : Interruption) :
      Early ⟨values, retries, .failed cause, t⟩

theorem Early.ne_returned (early : caller.Early) (m : Model) : caller.phase ≠ .returned m := by
  cases early <;> exact Phase.noConfusion

/-- When there is no key, a call ends with its lookup. -/
theorem Early.step {cause : Failure} (unaddressed : goal.key = .error cause)
    (early : caller.Early) : (caller.step goal around.client .whole s).1.Early := by
  cases early with
  | looking values retries =>
    change (proceed _ (around.inner.findBy goal.schema (.name goal.name) goal.parent) _ s).1.Early
    rw [proceed, Client.runOn_findBy_of_error unaddressed]
    exact .failed ..
  | failed values retries t cause => exact .failed ..

end Caller

end EntityStore
