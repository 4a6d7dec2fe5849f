import EntityStore.Proofs.Client.InPlace
import EntityStore.Proofs.Client.Session
import EntityStore.Proofs.Client.Shape

/-!
# The key of an instance

An instance is addressed by a name and a parent or by a key, and by the key of its record once it
has one.  These agree at every moment, whatever the instance has been through: a key that is known
once stays, every put writes under it and answers it, and an operation that fails leaves the
instance as it was.
-/

namespace EntityStore

namespace Model

variable {m m' : Model} {e : Entity} {key : Key} {moment : Moment}

/-- What is true of how an instance is addressed. -/
structure Addressed (m : Model) : Prop where
  kind_ne : m.kind ≠ ""
  saved : ∀ e, m.entity = some e → m.identity = .key e.key
  identified : ∀ key, m.identity = .key key → key.hasIdentifier = true
  named : ∀ name parent, m.identity = .pending (some name) parent →
    name ≠ "" ∧ ∀ above, parent = some above → above.isComplete = true

/-- Whether an instance knows its key. -/
structure Knows (m : Model) (key : Key) : Prop where
  key_eq : m.key = .ok key
  writeKey_eq : m.writeKey = .ok key
  hasKey_eq : m.hasKey = true
  parentKey?_eq : m.parentKey? = key.parent?
  identified : key.hasIdentifier = true

/-- Whether an instance has no key before it is written. -/
structure Keyless (m : Model) : Prop where
  key_eq : m.key = .error (.noKeyYet m.kind)
  writeKey_eq : ∃ parent, m.writeKey = Key.incomplete parent m.kind
  hasKey_eq : m.hasKey = false

theorem Addressed.knows_of_identity (addressed : m.Addressed) (identity : m.identity = .key key) :
    m.Knows key := by
  have identified := addressed.identified key identity
  cases last : m.entity with
  | none =>
      constructor <;>
        simp [Model.key, writeKey, hasKey, isSaved, parentKey?, last, identity, identified,
          Failure.pure_eq_ok_iff]
  | some e =>
      have same := addressed.saved e last
      rw [identity] at same
      cases same
      constructor <;>
        simp [Model.key, writeKey, hasKey, isSaved, parentKey?, last, identity, identified,
          Failure.pure_eq_ok_iff]

theorem Addressed.entity_eq_none (addressed : m.Addressed) {name : Option String}
    {parent : Option Key} (identity : m.identity = .pending name parent) : m.entity = none := by
  cases last : m.entity with
  | none => rfl
  | some e =>
      have same := addressed.saved e last
      rw [identity] at same
      contradiction

/-- A name makes the key before the instance is written. -/
theorem Addressed.exists_knows_of_name (addressed : m.Addressed) {name : String}
    {parent : Option Key} (identity : m.identity = .pending (some name) parent) :
    ∃ key, m.Knows key := by
  have unsaved := addressed.entity_eq_none identity
  rcases addressed.named name parent identity with ⟨named, complete⟩
  rcases Key.exists_build addressed.kind_ne named complete with ⟨key, built, above⟩
  refine ⟨key, ?_⟩
  constructor
  case key_eq => simp [Model.key, unsaved, identity, built]
  case writeKey_eq => simp [writeKey, unsaved, identity, built]
  case hasKey_eq => simp [hasKey, identity]
  case parentKey?_eq =>
    rw [above]
    cases parent <;> simp [parentKey?, identity, unsaved]
  case identified =>
    rw [Key.hasIdentifier, Key.id?_of_build built]
    rfl

theorem Addressed.keyless_of_nameless (addressed : m.Addressed) {parent : Option Key}
    (identity : m.identity = .pending none parent) : m.Keyless := by
  have unsaved := addressed.entity_eq_none identity
  constructor
  case key_eq =>
    simp [Model.key, unsaved, identity]
    rfl
  case writeKey_eq => exact ⟨parent, by simp [writeKey, unsaved, identity]⟩
  case hasKey_eq => simp [hasKey, isSaved, unsaved, identity]

theorem Addressed.cases (addressed : m.Addressed) : (∃ key, m.Knows key) ∨ m.Keyless := by
  cases identity : m.identity with
  | key key => exact .inl ⟨key, addressed.knows_of_identity identity⟩
  | pending name parent =>
      cases name with
      | none => exact .inr (addressed.keyless_of_nameless identity)
      | some name => exact .inl (addressed.exists_knows_of_name identity)

theorem Addressed.knows_of_key (addressed : m.Addressed) (known : m.key = .ok key) :
    m.Knows key := by
  rcases addressed.cases with ⟨key', knows⟩ | keyless
  · cases knows.key_eq.symm.trans known
    exact knows
  · cases keyless.key_eq.symm.trans known

/-! ## New instances -/

theorem addressed_of_build {b : Builder} (defined : b.schema.Defined)
    (built : b.build moment = .ok m) : m.Addressed := by
  rcases Builder.fresh_of_build built with ⟨schemaEq, unsaved, addressed⟩
  rcases Failure.exists_of_bind_eq_ok addressed with ⟨parent, -, addressed⟩
  constructor
  case kind_ne =>
    rw [kind, schemaEq]
    exact defined.kind_ne
  case saved =>
    intro e last
    rw [unsaved] at last
    contradiction
  case identified =>
    intro key identity
    rw [identity] at addressed
    split at addressed
    · rcases Failure.exists_of_bind_eq_ok addressed with ⟨⟨⟩, checked, returned⟩
      cases Failure.pure_eq_ok_iff.mp returned
      simp only [Builder.checkKey, Failure.guard_eq_ok_iff] at checked
      simpa using checked.1
    · rcases Failure.exists_of_bind_eq_ok addressed with ⟨⟨⟩, -, returned⟩
      cases Failure.pure_eq_ok_iff.mp returned
  case named =>
    intro name above identity
    rw [identity] at addressed
    split at addressed
    · rcases Failure.exists_of_bind_eq_ok addressed with ⟨⟨⟩, -, returned⟩
      cases Failure.pure_eq_ok_iff.mp returned
    · rcases Failure.exists_of_bind_eq_ok addressed with ⟨⟨⟩, checked, returned⟩
      have same := Failure.pure_eq_ok_iff.mp returned
      rw [Identity.pending.injEq] at same
      rcases same with ⟨given, rfl⟩
      simp only [Builder.checkPending, Failure.guard_eq_ok_iff] at checked
      rcases checked with ⟨filled, checked⟩
      constructor
      · rintro rfl
        exact filled given
      · rintro above rfl
        exact (Failure.require_eq_ok_iff.mp checked).1

theorem addressed_of_fromEntity {schema : Schema} (defined : schema.Defined)
    (loaded : fromEntity schema e moment = .ok m) : m.Addressed := by
  simp only [fromEntity, Failure.guard_eq_ok_iff, Failure.pure_eq_ok_iff] at loaded
  rcases loaded with ⟨-, rfl⟩
  cases identified : e.key.hasIdentifier with
  | false =>
      constructor <;> simp [kind, defined.kind_ne]
  | true =>
      constructor <;> simp [kind, defined.kind_ne, identified]

/-! ## Changes -/

theorem Addressed.edited (addressed : m.Addressed) (edited : m.Edited m') : m'.Addressed := by
  cases edited <;>
    exact ⟨addressed.kind_ne, addressed.saved, addressed.identified, addressed.named⟩

theorem Edited.key_eq (edited : m.Edited m') : m'.key = m.key := by
  cases edited <;> rfl

/-- A write completes the key of the instance, or finds it complete. -/
theorem Addressed.completed (addressed : m.Addressed) (recorded : m.toEntity moment = .ok e)
    {s s' : Store} (completed : (Store.complete e.key).runOn s = (.ok key, s')) :
    key.hasIdentifier = true ∧ ∀ known, m.key = .ok known → key = known := by
  have written := writeKey_of_toEntity recorded
  rcases addressed.cases with ⟨known, knows⟩ | keyless
  · cases knows.writeKey_eq.symm.trans written
    have same := Store.eq_of_complete knows.identified completed
    constructor
    · rw [same]
      exact knows.identified
    · intro key' known'
      cases knows.key_eq.symm.trans known'
      exact same
  · rcases keyless.writeKey_eq with ⟨parent, isOpen⟩
    have kindEq : e.key.kind = m.kind := Key.kind_of_incomplete (isOpen.symm.trans written)
    constructor
    · exact (Store.completed_of_complete (kindEq ▸ addressed.kind_ne) completed).2
    · intro known known'
      cases keyless.key_eq.symm.trans known'

theorem Addressed.markSaved (addressed : m.Addressed) (identified : key.hasIdentifier = true)
    (e : Entity) : (m.markSaved e key).Addressed where
  kind_ne := addressed.kind_ne
  saved := by
    rintro _ ⟨⟩
    rfl
  identified := by
    rintro _ ⟨⟩
    exact identified
  named := nofun

theorem Addressed.markDeleted (addressed : m.Addressed) (known : m.key = .ok key) :
    (m.markDeleted key).Addressed where
  kind_ne := addressed.kind_ne
  saved := nofun
  identified := by
    rintro _ ⟨⟩
    exact (addressed.knows_of_key known).identified
  named := nofun

end Model

/-! ## Steps -/

/-- What is done with an instance: it is edited, put alone or between others, or deleted. -/
inductive Operation where
  | edit (edit : Edit)
  | put
  | putBetween (before after : List Model)
  | delete

/-- The first of two states. -/
def Part.first {σ τ : Type} : Part (τ × σ) τ :=
  ⟨Prod.fst, fun t p => (t, p.2)⟩

/-- The list that an instance stands in, seen from the instance. -/
def Part.between {σ : Type} (before after : List Model) :
    Part (Model × σ) (List Model × σ) :=
  ⟨fun (m, s) => (before ++ m :: after, s), fun (ms, s) (m, _) => (ms[before.length]?.getD m, s)⟩

namespace Operation

variable {σ T : Type}

/-- The call of an operation.  A put answers the key of the instance. -/
def call (c : Client σ T) : Operation → Action (Model × σ) (Option Key)
  | .edit change => do
    Action.on .first change.inPlace
    return none
  | .put => some <$> c.putInPlace
  | .putBetween before after => do
    let keys ← Action.on (.between before after) c.putAllInPlace
    return keys[before.length]?
  | .delete => do
    c.deleteInPlace
    return none

/-- The instances on both sides of the instance, if the operation puts it. -/
def beside : Operation → Option (List Model × List Model)
  | .put => some ([], [])
  | .putBetween before after => some (before, after)
  | _ => none

end Operation

/-- An operation in some surroundings, on the store that it finds. -/
structure Step where
  operation : Operation
  around : Surroundings
  store : Store

/-- The answer of a step, and what it leaves of the instance and of the store. -/
def Step.run (step : Step) (m : Model) : Except Interruption (Option Key) × Model × Store :=
  (step.operation.call step.around.client).runOn (m, step.store)

/-- The instance after some steps. -/
def Model.after (m : Model) (steps : List Step) : Model :=
  steps.foldl (fun m step => (step.run m).2.1) m

/-- Whether a put of an instance between others has written one record for each of them, and in the
place of the instance a record with a key, which the instance holds from then on. -/
def PutsUnder (key : Key) (before after : List Model) (s : Store) (m' : Model) (s' : Store) :
    Prop :=
  ∃ e writes, s.Wrote writes s' ∧ writes.length = (before ++ m' :: after).length ∧
    writes[before.length]? = some (.record e) ∧ e.key = key ∧ m'.entity = some e

namespace Client

variable {around : Surroundings} {m m' : Model} {ms' before after : List Model} {key : Key}
  {keys : List Key} {s s' : Store}

theorem putsUnder_of_put (answered : (around.client.put m).runOn s = (.ok (m', key), s')) :
    PutsUnder key [] [] s m' s' := by
  rcases exists_of_put answered with ⟨e, -, stored, rfl⟩
  exact ⟨{ e with key }, [.ofPut (e, key)], Store.wrote_of_putOne stored, rfl, rfl, rfl, rfl⟩

theorem getElem?_between (before after : List Model) (m : Model) :
    (before ++ m :: after)[before.length]? = some m := by
  rw [List.getElem?_append_right (Nat.le_refl _), Nat.sub_self, List.getElem?_cons_zero]

theorem exists_of_putAll_between
    (answered : (around.client.putAll (before ++ m :: after)).runOn s = (.ok (ms', keys), s')) :
    ∃ e key s₁ s₂, m.toEntity around.moment = .ok e ∧ (Store.putOne e).runOn s₁ = (.ok key, s₂) ∧
      keys[before.length]? = some key ∧ ms'[before.length]? = some (m.markSaved e key) ∧
      PutsUnder key before after s (m.markSaved e key) s' := by
  have place := getElem?_between before after m
  rcases exists_of_putAll answered with ⟨es, recorded, stored, rfl⟩
  rcases Action.getElem?_of_runOn_mapM recorded place with ⟨e, s₀, _, ownRecord, making⟩
  rcases Action.getElem?_of_runOn_mapM stored ownRecord with ⟨key, s₁, s₂, ownKey, putting⟩
  have ownWrite : (es.zip keys)[before.length]? = some (e, key) :=
    List.getElem?_zip_eq_some.mpr ⟨ownRecord, ownKey⟩
  have wrote := Store.wrote_put es s
  rw [stored, Action.answered_eq_zip stored] at wrote
  refine ⟨e, key, s₁, s₂, toEntity_of_record making, putting, ownKey, ?_, { e with key }, _, wrote,
    ?_, ?_, rfl, rfl⟩
  · have ownZip : ((before ++ m :: after).zip (es.zip keys))[before.length]? = some (m, e, key) :=
      List.getElem?_zip_eq_some.mpr ⟨place, ownWrite⟩
    rw [List.getElem?_map, ownZip]
    rfl
  · rw [List.length_map, List.length_zip, Action.length_of_runOn_mapM stored,
      Action.length_of_runOn_mapM recorded]
    simp
  · rw [List.getElem?_map, ownWrite]
    rfl

end Client

/-- What a step can come to. -/
inductive Step.Outcome (step : Step) (m : Model) :
    Except Interruption (Option Key) × Model × Store → Prop where
  | failed (cause : Interruption) (s : Store) : Outcome step m (.error cause, m, s)
  | edited {m' : Model} (unput : step.operation.beside = none) (edited : m.Edited m') :
      Outcome step m (.ok none, m', step.store)
  | put {e : Entity} {key : Key} {before after : List Model} {s s₁ s₂ : Store}
      (beside : step.operation.beside = some (before, after))
      (recorded : m.toEntity step.around.moment = .ok e)
      (stored : (Store.putOne e).runOn s₁ = (.ok key, s₂))
      (puts : PutsUnder key before after step.store (m.markSaved e key) s) :
      Outcome step m (.ok (some key), m.markSaved e key, s)
  | deleted {key : Key} {s : Store} (unput : step.operation.beside = none)
      (known : m.key = .ok key) : Outcome step m (.ok none, m.markDeleted key, s)

theorem Step.outcome (step : Step) (m : Model) : step.Outcome m (step.run m) := by
  rcases step with ⟨operation, around, s⟩
  cases operation with
  | edit change =>
      have comesTo : change.inPlace.runOn m = _ := change.comesTo_inPlace m
      simp only [run, Operation.call, Action.runOn_bind, Action.on, Part.first,
        Action.runOn_ofFunction, comesTo]
      cases answered : change.apply m with
      | error cause => exact .failed _ s
      | ok m' => exact .edited rfl (Model.edited_of_apply answered)
  | put =>
      simp only [run, Operation.call, Action.runOn_map, Client.runOn_putInPlace]
      rcases answered : (around.client.put m).runOn s with ⟨cause | ⟨m', key⟩, s'⟩
      · exact .failed cause s'
      · have puts := Client.putsUnder_of_put answered
        rcases Client.exists_of_put answered with ⟨e, recorded, stored, rfl⟩
        exact .put rfl recorded stored puts
  | putBetween before after =>
      simp only [run, Operation.call, Action.runOn_bind, Action.on, Part.between,
        Action.runOn_ofFunction, Client.runOn_putAllInPlace]
      rcases answered : (around.client.putAll (before ++ m :: after)).runOn s with
        ⟨cause | ⟨ms, keys⟩, s'⟩
      · simp only [Client.getElem?_between, Option.getD_some]
        exact .failed cause s'
      · rcases Client.exists_of_putAll_between answered with
          ⟨e, key, s₁, s₂, recorded, stored, ownKey, own, puts⟩
        simp only [ownKey, own, Option.getD_some]
        exact .put rfl recorded stored puts
  | delete =>
      simp only [run, Operation.call, Action.runOn_bind, Client.runOn_deleteInPlace]
      rcases answered : (around.client.delete m).runOn s with ⟨cause | m', s'⟩
      · exact .failed cause s'
      · rcases Client.key_of_delete answered with ⟨key, known, rfl⟩
        exact .deleted rfl known

namespace Model

variable {m : Model} {key : Key}

theorem Addressed.step (addressed : m.Addressed) (step : Step) :
    (step.run m).2.1.Addressed := by
  have outcome := step.outcome m
  generalize step.run m = result at outcome ⊢
  cases outcome with
  | failed => exact addressed
  | edited _ edited => exact addressed.edited edited
  | put _ recorded stored =>
      rcases Store.complete_of_putOne stored with ⟨_, completed⟩
      exact addressed.markSaved (addressed.completed recorded completed).1 _
  | deleted _ known => exact addressed.markDeleted known

theorem Addressed.run (addressed : m.Addressed) (steps : List Step) :
    (m.after steps).Addressed := by
  induction steps generalizing m with
  | nil => exact addressed
  | cons step steps inductionHypothesis => exact inductionHypothesis (addressed.step step)

/-- No step takes the key from an instance that has one. -/
theorem Addressed.key_step (addressed : m.Addressed) (known : m.key = .ok key) (step : Step) :
    (step.run m).2.1.key = .ok key := by
  have outcome := step.outcome m
  generalize step.run m = result at outcome ⊢
  cases outcome with
  | failed => exact known
  | edited _ edited => exact edited.key_eq.trans known
  | put _ recorded stored =>
      rcases Store.complete_of_putOne stored with ⟨_, completed⟩
      rw [← (addressed.completed recorded completed).2 key known]
      rfl
  | deleted _ known' =>
      rw [← known, known']
      rfl

theorem Addressed.key_run (addressed : m.Addressed) (known : m.key = .ok key)
    (steps : List Step) : (m.after steps).key = .ok key := by
  induction steps generalizing m with
  | nil => exact known
  | cons step steps inductionHypothesis =>
      exact inductionHypothesis (addressed.step step) (addressed.key_step known step)

/-- A put of an instance that has a key answers that key, and writes under it. -/
theorem Addressed.puts (addressed : m.Addressed) (known : m.key = .ok key) {step : Step}
    {before after : List Model} {answer : Option Key}
    (beside : step.operation.beside = some (before, after))
    (answered : (step.run m).1 = .ok answer) :
    answer = some key ∧
      PutsUnder key before after step.store (step.run m).2.1 (step.run m).2.2 := by
  have outcome := step.outcome m
  generalize step.run m = result at outcome answered ⊢
  cases outcome with
  | failed => cases answered
  | edited unput => cases unput.symm.trans beside
  | put beside' recorded stored puts =>
      cases answered
      cases beside'.symm.trans beside
      rcases Store.complete_of_putOne stored with ⟨_, completed⟩
      cases (addressed.completed recorded completed).2 key known
      exact ⟨rfl, puts⟩
  | deleted unput => cases unput.symm.trans beside

theorem eq_of_step_error {step : Step} {cause : Interruption}
    (failed : (step.run m).1 = .error cause) : (step.run m).2.1 = m := by
  have outcome := step.outcome m
  generalize step.run m = result at outcome failed ⊢
  cases outcome with
  | failed => rfl
  | _ => cases failed

/-! ## The life of an instance -/

/-- What is true of an instance at every moment of its life. -/
structure LifeCycle (m : Model) : Prop where
  hasKey_iff : m.hasKey = true ↔ ∃ key, m.key = .ok key
  /-- An instance that has a record is addressed by the key of the record. -/
  saved : m.isSaved = true → ∃ e, m.entity = some e ∧ m.identity = .key e.key
  parentKey?_eq : ∀ key, m.key = .ok key → m.parentKey? = key.parent?
  /-- What fails leaves the instance as it is, with its key, its record and its values. -/
  unchanged : ∀ (step : Step) cause, (step.run m).1 = .error cause → (step.run m).2.1 = m
  kept : ∀ key, m.key = .ok key → ∀ later, (m.after later).key = .ok key
  /-- Every later put that is answered answers the key, and writes under it. -/
  puts : ∀ key, m.key = .ok key → ∀ later (step : Step) before after answer,
    step.operation.beside = some (before, after) →
      (step.run (m.after later)).1 = .ok answer →
        answer = some key ∧ PutsUnder key before after step.store
          (step.run (m.after later)).2.1 (step.run (m.after later)).2.2

/-- An instance that was just built, or rebuilt from a record. -/
inductive Obtained : Model → Prop where
  | built {m : Model} {b : Builder} (moment : Moment) (defined : b.schema.Defined)
      (answered : b.build moment = .ok m) : Obtained m
  | loaded {m : Model} {schema : Schema} {e : Entity} (moment : Moment)
      (defined : schema.Defined) (answered : fromEntity schema e moment = .ok m) : Obtained m

theorem Obtained.addressed (obtained : m.Obtained) : m.Addressed := by
  cases obtained with
  | built _ defined answered => exact addressed_of_build defined answered
  | loaded _ defined answered => exact addressed_of_fromEntity defined answered

theorem Addressed.lifeCycle (addressed : m.Addressed) : m.LifeCycle where
  hasKey_iff := by
    rcases addressed.cases with ⟨key, knows⟩ | keyless
    · simp [knows.hasKey_eq, knows.key_eq]
    · simp [keyless.hasKey_eq, keyless.key_eq]
  saved := by
    intro saved
    rcases Option.isSome_iff_exists.mp saved with ⟨e, last⟩
    exact ⟨e, last, addressed.saved e last⟩
  parentKey?_eq key known := (addressed.knows_of_key known).parentKey?_eq
  unchanged step cause failed := eq_of_step_error failed
  kept key known := addressed.key_run known
  puts key known later step before after answer beside answered :=
    (addressed.run later).puts (addressed.key_run known later) beside answered

/-- However an instance was obtained, and whatever is done with it, one key addresses it. -/
theorem lifeCycle_of_obtained (obtained : m.Obtained) (steps : List Step) :
    (m.after steps).LifeCycle :=
  (obtained.addressed.run steps).lifeCycle

/-- The first key that an empty store gives to an entry. -/
def diaryKey : Key :=
  ⟨[⟨"Diary", some (.number 1)⟩]⟩

/-- An entry without a name has no key.  Its first put finds one, and after a deletion it goes back
under it, in a store that would have given another one. -/
theorem lifeCycle_diary :
    ∃ schema built, diary.assemble = .ok schema ∧
      Builder.build { schema } midnight = .ok built ∧ built.hasKey = false ∧
        let steps := [⟨.put, atMidnight, {}⟩, ⟨.delete, atMidnight, {}⟩]
        let again : Step := ⟨.putBetween [built] [], atMidnight, { nextId := 5 }⟩
        (built.after steps).key = .ok diaryKey ∧ (built.after steps).LifeCycle ∧
          (again.run (built.after steps)).1 = .ok (some diaryKey) := by
  refine ⟨_, _, rfl, rfl, rfl, rfl, ?_, rfl⟩
  apply lifeCycle_of_obtained
  exact .built (b := { schema := _ }) midnight (.assemble (d := diary) nofun rfl) rfl

end Model

end EntityStore
