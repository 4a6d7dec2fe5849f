import EntityStore.Proofs.Client.Batch

/-!
# Sessions over one schema

A program builds instances of a schema, edits them and puts them to a store, in any order and as
often as it likes.  Several instances may come under one key, and then the last put counts.  Along
every session each record of the kind is the one of a held instance, and it holds what the instance
does unless that has been edited since its last put.
-/

namespace EntityStore

namespace Client

variable {around : Surroundings} {m m' : Model} {key : Key} {s s' : Store}

theorem runOn_put_storage (around : Surroundings) (e : Entity) (s : Store) :
    (around.client.datastore.put [e] around.client.options).runOn s =
      (([·]) <$> Store.putOne e).runOn s := by
  calc (around.client.datastore.put [e] around.client.options).runOn s
      = (Store.put [e]).runOn s := runOn_put_datastore around [e] s
    _ = (([·]) <$> Store.putOne e).runOn s := by
        simp only [Store.put, List.mapM_cons, List.mapM_nil, Action.runOn_bind, Action.runOn_pure,
          Action.runOn_map]
        rcases (Store.putOne e).runOn s with ⟨_ | _, _⟩ <;> rfl

/-- A put makes the record of the instance and stores it. -/
theorem runOn_put_eq (around : Surroundings) (m : Model) (s : Store) :
    (around.client.put m).runOn s =
      match m.toEntity around.moment with
      | .error cause => (.error (.failure cause), s)
      | .ok e =>
        match (Store.putOne e).runOn s with
        | (.ok key, s') => (.ok (m.markSaved e key, key), s')
        | (.error cause, s') => (.error cause, s') := by
  rw [put, Action.runOn_bind, runOn_record]
  cases m.toEntity around.moment with
  | error cause => rfl
  | ok e =>
    simp only [Except.mapError, Action.runOn_bind, runOn_put_storage, Action.runOn_map]
    rcases (Store.putOne e).runOn s with ⟨_ | key, s'⟩ <;> rfl

/-- A put that is answered has stored the record of the instance. -/
theorem exists_of_put (answered : (around.client.put m).runOn s = (.ok (m', key), s')) :
    ∃ e, m.toEntity around.moment = .ok e ∧ (Store.putOne e).runOn s = (.ok key, s') ∧
      m' = m.markSaved e key := by
  rw [runOn_put_eq] at answered
  cases recorded : m.toEntity around.moment with
  | error cause => simp [recorded] at answered
  | ok e =>
    simp only [recorded] at answered
    rcases stored : (Store.putOne e).runOn s with ⟨_ | key', s₁⟩
    · simp [stored] at answered
    · rw [stored] at answered
      cases answered
      exact ⟨e, rfl, stored, rfl⟩

/-- A put that is not answered leaves the store as it is. -/
theorem eq_of_put_error {cause : Interruption}
    (failed : (around.client.put m).runOn s = (.error cause, s')) : s' = s := by
  rw [runOn_put_eq] at failed
  cases recorded : m.toEntity around.moment with
  | error cause' =>
    rw [recorded] at failed
    cases failed
    rfl
  | ok e =>
    simp only [recorded] at failed
    rcases stored : (Store.putOne e).runOn s with ⟨_ | key', s₁⟩
    · rw [stored] at failed
      cases failed
      exact (Store.complete_of_putOne_error stored).2
    · simp [stored] at failed

end Client

/-- An instance that a program holds. -/
structure Session.Held where
  model : Model
  /-- Whether the instance is as it was when it was last put. -/
  saved : Bool

/-- The instances of one schema that a program holds, and the store that it puts them to. -/
structure Session where
  held : List Session.Held := []
  store : Store

namespace Session

/-- What can happen in a session over the instances of a schema. -/
inductive Event (schema : Schema) where
  | build (b : Builder) (own : b.schema = schema) (moment : Moment)
  /-- A change to the instance at a position. -/
  | edit (position : Nat) (edit : Edit)
  /-- A put of the instance at a position. -/
  | put (position : Nat) (around : Surroundings)
  /-- Whatever else happens to the store and spares the records of the kind. -/
  | elsewhere (change : Store → Store) (spares : ∀ (s : Store) (key : Key),
      key.kind = schema.kind → (change s).records[key]? = s.records[key]?)

variable {schema : Schema}

/-- The session after one event.  What fails changes no instance. -/
def step (session : Session) : Event schema → Session
  | .build b _ moment =>
    match b.build moment with
    | .ok m => { session with held := session.held ++ [⟨m, false⟩] }
    | .error _ => session
  | .edit position edit =>
    match session.held[position]? with
    | some held =>
      match edit.apply held.model with
      | .ok m => { session with held := session.held.set position ⟨m, false⟩ }
      | .error _ => session
    | none => session
  | .put position around =>
    match session.held[position]? with
    | some held =>
      match (around.client.put held.model).runOn session.store with
      | (.ok (m, _), s) => ⟨session.held.set position ⟨m, true⟩, s⟩
      | (.error _, s) => { session with store := s }
    | none => session
  | .elsewhere change _ => { session with store := change session.store }

/-- The session after some events. -/
def run (session : Session) (events : List (Event schema)) : Session :=
  events.foldl step session

/-! ## What the records of the kind show -/

/-- What is true of every held instance. -/
structure Fits (schema : Schema) (s : Store) (held : Held) : Prop where
  schema_eq : held.model.schema = schema
  holds : held.model.HoldsAll schema
  kind_eq : ∀ key : Key, held.model.writeKey = .ok key → key.kind = schema.kind
  identified : ∀ e, held.model.entity = some e → e.key.hasIdentifier = true
  stored : held.saved = true →
    ∃ e, held.model.entity = some e ∧ (s.records[e.key]?).isSome = true

/-- Whether a record is the one of a held instance: it is under the instance's key, and holds what
the instance does unless that has been edited. -/
structure Shows (schema : Schema) (held : Held) (e : Entity) : Prop where
  key_eq : held.model.entity.map (·.key) = some e.key
  record : held.saved = true → held.model.RecordOf schema e ∧ e.unindexed = schema.unindexed

/-- What is true all along a session: every record of the kind is the one of a held instance. -/
structure Sound (schema : Schema) (session : Session) : Prop where
  fits : ∀ held ∈ session.held, Fits schema session.store held
  shown : ∀ (key : Key) e, session.store.records[key]? = some e → key.kind = schema.kind →
    ∃ held ∈ session.held, Shows schema held e

variable {session : Session} {held held' : Held} {m : Model} {s s' : Store} {e : Entity}
  {position : Nat}

/-- An instance that was put is written under the key of its record again. -/
theorem writeKey_of_entity (written : m.entity = some e) : m.writeKey = .ok e.key := by
  rw [Model.writeKey, written]
  rfl

theorem Shows.key_of_model (shows : Shows schema held e) : held.model.key = .ok e.key := by
  rcases Option.map_eq_some_iff.mp shows.key_eq with ⟨e₀, written, same⟩
  rw [Model.key, written, ← same]
  rfl

theorem Fits.of_records (fits : Fits schema s held)
    (kept : ∀ key : Key, key.kind = schema.kind →
      (s.records[key]?).isSome = true → (s'.records[key]?).isSome = true) :
    Fits schema s' held where
  schema_eq := fits.schema_eq
  holds := fits.holds
  kind_eq := fits.kind_eq
  identified := fits.identified
  stored saved := by
    rcases fits.stored saved with ⟨e, written, found⟩
    exact ⟨e, written, kept e.key (fits.kind_eq _ (writeKey_of_entity written)) found⟩

/-- Changing one held instance leaves a session sound if every record that was shown still is. -/
theorem Sound.set (sound : Sound schema session) (found : session.held[position]? = some held)
    (fits : ∀ other ∈ session.held, Fits schema s' other) (fitting : Fits schema s' held')
    (shown : ∀ (key : Key) e, s'.records[key]? = some e → key.kind = schema.kind →
      Shows schema held' e ∨
        session.store.records[key]? = some e ∧ (Shows schema held e → Shows schema held' e)) :
    Sound schema ⟨session.held.set position held', s'⟩ := by
  rcases List.getElem?_eq_some_iff.mp found with ⟨within, rfl⟩
  have changed : held' ∈ session.held.set position held' := List.mem_set within held'
  constructor
  · intro other member
    rcases List.mem_or_eq_of_mem_set member with member | rfl
    · exact fits other member
    · exact fitting
  · intro key e stored kind
    rcases shown key e stored kind with shows | ⟨before, carries⟩
    · exact ⟨held', changed, shows⟩
    · rcases sound.shown key e before kind with ⟨other, member, shows⟩
      rcases List.getElem_of_mem member with ⟨i, inside, rfl⟩
      by_cases same : position = i
      · subst same
        exact ⟨held', changed, carries shows⟩
      · have unchanged : (session.held.set position held')[i]? = some session.held[i] := by
          rw [List.getElem?_set_ne same, List.getElem?_eq_getElem inside]
        exact ⟨session.held[i], List.mem_of_getElem? unchanged, shows⟩

theorem Sound.build (distinct : schema.Distinct) (sound : Sound schema session) {b : Builder}
    (own : b.schema = schema) {moment : Moment} (built : b.build moment = .ok m) :
    Sound schema { session with held := session.held ++ [⟨m, false⟩] } := by
  subst own
  have unwritten := Builder.unwritten_of_build distinct built
  have fitting : Fits b.schema session.store ⟨m, false⟩ := {
    schema_eq := unwritten.schema_eq
    holds := unwritten.holds
    kind_eq := fun key keyed => Builder.kind_of_writeKey unwritten.toFresh keyed
    identified := fun e written => absurd (unwritten.entity_eq.symm.trans written) nofun
    stored := nofun }
  constructor
  · intro held member
    rcases List.mem_append.mp member with member | member
    · exact sound.fits held member
    · rwa [List.mem_singleton.mp member]
  · intro key e stored kind
    rcases sound.shown key e stored kind with ⟨held, member, shows⟩
    exact ⟨held, List.mem_append_left _ member, shows⟩

/-- An edited instance keeps its key, and nothing is said about its record any more. -/
theorem Sound.edit (distinct : schema.Distinct) (sound : Sound schema session)
    (found : session.held[position]? = some held) (edited : held.model.Edited m) :
    Sound schema { session with held := session.held.set position ⟨m, false⟩ } := by
  have fits := sound.fits held (List.mem_of_getElem? found)
  have fitting : Fits schema session.store ⟨m, false⟩ := {
    schema_eq := edited.schema_eq.trans fits.schema_eq
    holds := fits.holds.edited distinct fits.schema_eq edited
    kind_eq := by
      rw [edited.writeKey_eq]
      exact fits.kind_eq
    identified := by
      rw [edited.entity_eq]
      exact fits.identified
    stored := nofun }
  apply sound.set found sound.fits fitting
  intro key e stored kind
  right
  constructor
  · exact stored
  · intro shows
    constructor
    · rw [edited.entity_eq]
      exact shows.key_eq
    · exact nofun

/-- What a put writes shows the instance, and no other record of the kind changes. -/
theorem Sound.put (defined : schema.Defined) (closed : schema.isExpando = false)
    (sound : Sound schema session) (found : session.held[position]? = some held)
    {around : Surroundings} {key : Key}
    (answered : (around.client.put held.model).runOn session.store = (.ok (m, key), s)) :
    Sound schema ⟨session.held.set position ⟨m, true⟩, s⟩ := by
  have fits := sound.fits held (List.mem_of_getElem? found)
  rcases Client.exists_of_put answered with ⟨e, recorded, stored, rfl⟩
  have records := Store.getElem?_putOne stored
  have keyed := Model.writeKey_of_toEntity recorded
  have ownKind : e.key.kind = schema.kind := fits.kind_eq _ keyed
  rcases Store.complete_of_putOne stored with ⟨_, completed⟩
  rcases Store.completed_of_complete (ownKind ▸ defined.kind_ne) completed with
    ⟨sameKind, identified⟩
  have kindEq : key.kind = schema.kind := sameKind.trans ownKind
  have shows : Shows schema ⟨held.model.markSaved e key, true⟩ { e with key } := by
    refine ⟨rfl, fun _ => ?_⟩
    have ofSchema := fits.schema_eq
    subst ofSchema
    rcases Model.recordOf_of_closed defined.distinct closed ownKind recorded with
      ⟨⟨-, places, dynamic⟩, unindexed⟩
    exact ⟨⟨kindEq, places, dynamic⟩, unindexed⟩
  have fitting : Fits schema s ⟨held.model.markSaved e key, true⟩ := {
    schema_eq := fits.schema_eq
    holds := fits.holds
    kind_eq := by
      intro key' keyed'
      cases Failure.pure_eq_ok_iff.mp keyed'
      exact kindEq
    identified := by
      rintro e' ⟨⟩
      exact identified
    stored := fun _ => ⟨_, rfl, by rw [records, if_pos rfl]; rfl⟩ }
  apply sound.set found _ fitting
  · intro key' e' stored' kind
    rw [records] at stored'
    by_cases same : key = key'
    · rw [if_pos same] at stored'
      cases stored'
      exact .inl shows
    · rw [if_neg same] at stored'
      refine .inr ⟨stored', fun shown => absurd ?_ same⟩
      rcases Option.map_eq_some_iff.mp shown.key_eq with ⟨e₀, written, sameKey⟩
      have before : e.key = e₀.key :=
        Except.ok.inj (keyed.symm.trans (writeKey_of_entity written))
      have complete : e.key.hasIdentifier = true := before ▸ fits.identified e₀ written
      calc key
          = e.key := Store.eq_of_complete complete completed
        _ = e'.key := before.trans sameKey
        _ = key' := session.store.keyed key' e' stored'
  · intro other member
    apply (sound.fits other member).of_records
    intro key' _ before
    rw [records]
    split
    · rfl
    · exact before

theorem Sound.elsewhere (sound : Sound schema session)
    (spares : ∀ key : Key, key.kind = schema.kind → s.records[key]? = session.store.records[key]?) :
    Sound schema { session with store := s } where
  fits held member := (sound.fits held member).of_records fun key kind before => by
    rwa [spares key kind]
  shown key e stored kind := sound.shown key e ((spares key kind).symm.trans stored) kind

/-- Every event leaves a session sound. -/
theorem Sound.step (defined : schema.Defined) (closed : schema.isExpando = false)
    (sound : Sound schema session) (event : Event schema) : Sound schema (session.step event) := by
  cases event with
  | build b own moment =>
    simp only [Session.step]
    split
    next built => exact sound.build defined.distinct own built
    · exact sound
  | edit position edit =>
    simp only [Session.step]
    split
    next found =>
      split
      next applied => exact sound.edit defined.distinct found (Model.edited_of_apply applied)
      · exact sound
    · exact sound
  | put position around =>
    simp only [Session.step]
    split
    next found =>
      split
      next answered => exact sound.put defined closed found answered
      next failed =>
        rw [Client.eq_of_put_error failed]
        exact sound
    · exact sound
  | elsewhere change spares => exact sound.elsewhere (spares session.store)

theorem Sound.run (defined : schema.Defined) (closed : schema.isExpando = false)
    (sound : Sound schema session) (events : List (Event schema)) :
    Sound schema (session.run events) := by
  induction events generalizing session with
  | nil => exact sound
  | cons event rest inductionHypothesis =>
    exact inductionHypothesis (sound.step defined closed event)

/-! ## Settled sessions -/

/-- Whether a session began with nothing in hand and without records of the kind. -/
def Reached (schema : Schema) (session : Session) : Prop :=
  ∃ (start : Store) (events : List (Event schema)),
    (∀ (key : Key) e, start.records[key]? = some e → key.kind ≠ schema.kind) ∧
      run { store := start } events = session

theorem Reached.sound (defined : schema.Defined) (closed : schema.isExpando = false)
    (reached : Reached schema session) : Sound schema session := by
  rcases reached with ⟨start, events, vacant, rfl⟩
  have begins : Sound schema { store := start } := {
    fits := nofun
    shown := fun key e stored kind => absurd kind (vacant key e stored) }
  exact begins.run defined closed events

/-- Whether every held instance is as it was put, no two of them under one key. -/
structure Settled (session : Session) : Prop where
  saved : ∀ held ∈ session.held, held.saved = true
  distinct : (session.held.map (·.model.key)).Nodup

/-- In a settled session every held instance has a record that shows it. -/
theorem Sound.exists_shown (sound : Sound schema session) (settled : Settled session)
    (member : held ∈ session.held) :
    ∃ e, session.store.records[e.key]? = some e ∧ Shows schema held e := by
  have fits := sound.fits held member
  rcases fits.stored (settled.saved held member) with ⟨e₀, written, stored⟩
  rcases Option.isSome_iff_exists.mp stored with ⟨e, found⟩
  have sameKey : e.key = e₀.key := session.store.keyed _ e found
  have kindEq : e₀.key.kind = schema.kind := fits.kind_eq _ (writeKey_of_entity written)
  rcases sound.shown _ e found kindEq with ⟨other, member', shows⟩
  have ownKey : held.model.key = .ok e₀.key := by
    rw [Model.key, written]
    rfl
  have same : other = held := by
    apply List.inj_on_of_nodup_map settled.distinct member' member
    rw [shows.key_of_model, ownKey, sameKey]
  rw [← sameKey] at found
  exact ⟨e, found, same ▸ shows⟩

end Session

end EntityStore
