import EntityStore.Proofs.Client.Identity
import EntityStore.Proofs.Model.Coherence
import EntityStore.Proofs.Model.Resaving
import EntityStore.Proofs.Store.Reached

/-!
# All that can be done with an instance

Besides being edited, put and deleted, an instance can be assigned to by a property and asked for
its parent and for what a reference leads to.  Each of these finds some store that can be reached.
They all keep the key of the instance in order, and what it holds and remembers.
-/

namespace EntityStore

/-! ## What is fetched -/

namespace Client

variable {around : Surroundings} {key : Key} {t : Model} {s s' : Store}

/-- The instance that is rebuilt from a record of a registered kind. -/
def rebuilt (around : Surroundings) (e : Entity) : Except Failure Model := do
  let schema ← around.registry.schemaOf e.kind
  Model.fromEntity schema e around.moment

theorem runOn_load (around : Surroundings) (e : Entity) (s : Store) :
    (around.client.load e).runOn s = ((rebuilt around e).mapError .failure, s) := by
  have registered : around.client.registry s = around.registry := rfl
  have timed : around.client.moment.runOn s = (.ok around.moment, s) := rfl
  simp only [load, rebuilt, Action.runOn_bind, Action.runOn_read, Action.runOn_lift, registered]
  cases around.registry.schemaOf e.kind with
  | error cause => rfl
  | ok schema =>
      simp only [Except.mapError, timed]
      rfl

/-- A key leads to the instance that is rebuilt from its record. -/
theorem runOn_get (around : Surroundings) (key : Key) (s : Store) :
    (around.client.get key).runOn s = match s.records[key]? with
      | none => (.ok none, s)
      | some e => (((rebuilt around e).map some).mapError .failure, s) := by
  have got : (around.client.datastore.get [key] around.client.options).runOn s =
      (.ok [s.records[key]?], s) :=
    rfl
  simp only [get, getMany, Action.runOn_bind, got]
  cases s.records[key]? with
  | none => rfl
  | some e =>
      simp only [List.mapM_cons, List.mapM_nil, onRecord, Action.runOn_bind, Action.runOn_map,
        runOn_load, Action.runOn_pure]
      cases rebuilt around e <;> rfl

/-- What a key with an identifier leads to has that key. -/
theorem key_of_get (identified : key ∈ s.records → key.hasIdentifier = true)
    (got : (around.client.get key).runOn s = (.ok (some t), s')) : t.key = .ok key := by
  rw [runOn_get] at got
  cases stored : s.records[key]? with
  | none => simp [stored] at got
  | some e =>
      have there : key ∈ s.records :=
        Std.ExtTreeMap.mem_iff_isSome_getElem?.mpr (by simp [stored])
      have placed := s.keyed key e stored
      simp only [stored] at got
      cases loaded : rebuilt around e with
      | error cause => simp [loaded, Except.map, Except.mapError] at got
      | ok m =>
          rw [loaded] at got
          cases got
          rcases Failure.exists_of_bind_eq_ok loaded with ⟨schema, -, made⟩
          have remembered := Model.remembered_of_fromEntity (placed ▸ identified there) made
          rw [Model.key, remembered.2, ← placed]
          rfl

end Client

/-! ## Puts and deletions -/

namespace Model

variable {m : Model} {key : Key} {e : Entity} {moment : Moment}

/-- A write does not move an instance below another parent. -/
theorem Addressed.parent?_of_complete (addressed : m.Addressed)
    (recorded : m.toEntity moment = .ok e) {s s' : Store}
    (completed : (Store.complete e.key).runOn s = (.ok key, s')) :
    key.parent? = m.parentKey? := by
  have ofKnown : ∀ known, m.Knows known → key.parent? = m.parentKey? := by
    intro known knows
    rw [(addressed.completed recorded completed).2 known knows.key_eq, knows.parentKey?_eq]
  cases identity : m.identity with
  | key known => exact ofKnown known (addressed.knows_of_identity identity)
  | pending name parent =>
      cases name with
      | some name =>
          rcases addressed.exists_knows_of_name identity with ⟨known, knows⟩
          exact ofKnown known knows
      | none =>
          have unsaved := addressed.entity_eq_none identity
          have written := writeKey_of_toEntity recorded
          simp only [writeKey, unsaved, identity] at written
          have up : e.key.parent? = m.parentKey? := by
            rw [Key.parent?_of_incomplete written]
            cases parent <;> simp [parentKey?, identity, unsaved]
          rcases Store.complete_cases completed with ⟨-, rfl⟩ | ⟨-, id, rfl⟩
          · exact up
          · rw [Key.parent?_withNumber, up]

/-- What is put stays at its place with all that it holds and remembers. -/
theorem Addressed.stays_markSaved (addressed : m.Addressed) (recorded : m.toEntity moment = .ok e)
    {s s' : Store} (completed : (Store.complete e.key).runOn s = (.ok key, s')) :
    m.Stays (m.markSaved e key) :=
  ⟨rfl, rfl, rfl, rfl, addressed.parent?_of_complete recorded completed⟩

theorem Addressed.stays_markDeleted (addressed : m.Addressed) (known : m.key = .ok key) :
    m.Stays (m.markDeleted key) :=
  ⟨rfl, rfl, rfl, rfl, (addressed.knows_of_key known).parentKey?_eq.symm⟩

/-- One step of an instance keeps it coherent; the outcome of an edit does not say which edit was
made, so the edits are followed by themselves. -/
theorem Coherent.step (coherent : m.Coherent) (addressed : m.Addressed) (step : Step) :
    (step.run m).2.1.Coherent := by
  have outcome := step.outcome m
  cases put : step.operation.beside with
  | some neighbours =>
      generalize step.run m = result at outcome ⊢
      cases outcome with
      | failed => exact coherent
      | edited unput => cases put.symm.trans unput
      | put _ recorded stored =>
          rcases Store.complete_of_putOne stored with ⟨_, completed⟩
          exact coherent.stays (addressed.stays_markSaved recorded completed)
      | deleted unput => cases put.symm.trans unput
  | none =>
      rcases step with ⟨operation, around, s⟩
      cases operation with
      | edit change =>
          have comesTo : change.inPlace.runOn m = _ := change.comesTo_inPlace m
          simp only [Step.run, Operation.call, Action.runOn_bind, Action.on, Part.first,
            Action.runOn_ofFunction, comesTo]
          cases answered : change.apply m with
          | error cause => exact coherent
          | ok m' => exact coherent.apply answered
      | delete =>
          simp only [Step.run, Operation.call, Action.runOn_bind, Client.runOn_deleteInPlace]
          rcases answered : (around.client.delete m).runOn s with ⟨cause | m', s'⟩
          · exact coherent
          · rcases Client.key_of_delete answered with ⟨key, known, rfl⟩
            exact coherent.stays (addressed.stays_markDeleted known)
      | put => cases put
      | putBetween => cases put

end Model

/-! ## Parents and references -/

namespace Client

variable {around : Surroundings} {m m' : Model} {found : Option Model} {name : String}
  {key : Key} {s s' : Store}

/-- What an instance becomes when it is asked for its parent: it answers the parent that it
remembers then, and that is new only if it was fetched. -/
inductive Rises (around : Surroundings) (m : Model) (s : Store) : Model → Prop where
  | remembered : Rises around m s m
  | fetched {key : Key} {t : Model} {s' : Store} (up : m.parentKey? = some key)
      (got : (around.client.get key).runOn s = (.ok (some t), s')) :
      Rises around m s { m with parent := some t }

theorem rises_of_parent (answered : (around.client.parent m).runOn s = (.ok (m', found), s')) :
    found = m'.parent ∧ Rises around m s m' := by
  unfold parent at answered
  split at answered
  next remembered =>
    cases answered
    exact ⟨remembered.symm, .remembered⟩
  next unknown =>
    split at answered
    · cases answered
      exact ⟨unknown.symm, .remembered⟩
    next key up =>
      rcases Action.exists_of_runOn_bind answered with ⟨_ | t, s₁, got, answered⟩
      · cases answered
        exact ⟨unknown.symm, .remembered⟩
      · cases answered
        exact ⟨rfl, .fetched up got⟩

/-- What an instance becomes when it is asked for what a reference leads to.  It remembers the
answer, which is new only if it was fetched for the key that is held and is of the right kind. -/
inductive Follows (around : Surroundings) (m : Model) (name : String) (s : Store) (key : Key) :
    Model → Model → Prop where
  | remembered {known : Model} (there : m.resolved? name = some known)
      (fits : known.key = .ok key) : Follows around m name s key m known
  | fetched {p : Property} {r : Reference} {t : Model} {s' : Store}
      (named : m.referenceProperty name = .ok (p, r))
      (got : (around.client.get key).runOn s = (.ok (some t), s'))
      (checked : Model.checkTarget name r t = .ok ()) :
      Follows around m name s key (m.remember name t) t

/-- An answered reference leads to the instance that its key has; a remembered instance of another
key is passed over. -/
theorem follows_of_reference
    (answered : (around.client.reference m name).runOn s = (.ok (m', found), s')) :
    m' = m ∧ found = none ∨ ∃ key t, m.referenceKey name = .ok (some key) ∧ found = some t ∧
      Follows around m name s key m' t := by
  rcases Action.exists_of_runOn_bind answered with ⟨⟨p, r⟩, s₁, naming, continued⟩
  rcases Action.eq_ok_of_runOn_lift naming with ⟨named, rfl⟩
  rcases Action.exists_of_runOn_bind continued with ⟨held, s₂, holding, resolved⟩
  rcases Action.eq_ok_of_runOn_lift holding with ⟨holds, rfl⟩
  cases held with
  | none =>
      cases resolved
      exact .inl ⟨rfl, rfl⟩
  | some key =>
      right
      have fetching : (reference.fetch around.client m name r key).runOn s₂ =
          (.ok (m', found), s') → ∃ t, found = some t ∧ Follows around m name s₂ key m' t := by
        intro fetched
        rcases Action.exists_of_runOn_bind fetched with ⟨_ | t, s₁, got, kept⟩
        · cases kept
        · rcases Action.exists_of_runOn_bind kept with ⟨⟨⟩, _, checking, returned⟩
          cases returned
          exact ⟨t, rfl, .fetched named got (Action.eq_ok_of_runOn_lift checking).1⟩
      have follows : ∃ t, found = some t ∧ Follows around m name s₂ key m' t := by
        cases there : m.resolved? name with
        | none =>
            simp only [there] at resolved
            exact fetching resolved
        | some known =>
            simp only [there] at resolved
            split at resolved
            next same =>
              cases resolved
              refine ⟨known, rfl, .remembered there ?_⟩
              cases keyed : known.key with
              | error cause => simp [keyed, Except.toOption] at same
              | ok key' => simpa [keyed, Except.toOption] using same
            · exact fetching resolved
      rcases follows with ⟨t, answer, follows⟩
      exact ⟨key, t, holds, answer, follows⟩

end Client

namespace Model

variable {around : Surroundings} {m m' t target : Model} {name : String} {key : Key} {s s' : Store}

theorem exists_of_referenceKey (holds : m.referenceKey name = .ok (some key)) :
    ∃ p r, m.referenceProperty name = .ok (p, r) ∧ m.value p.attributeName = .key key := by
  rcases Failure.exists_of_bind_eq_ok holds with ⟨⟨p, r⟩, named, read⟩
  refine ⟨p, r, named, ?_⟩
  have held : (m.value p.attributeName).key? = some key := Failure.pure_eq_ok_iff.mp read
  cases value : m.value p.attributeName with
  | key key' =>
      rw [value] at held
      cases held
      rfl
  | _ =>
      rw [value] at held
      cases held

theorem Coherent.rises (coherent : m.Coherent) (reached : s.Reached)
    (rises : Client.Rises around m s m') : m'.Coherent ∧ m'.parentKey? = m.parentKey? := by
  cases rises with
  | remembered => exact ⟨coherent, rfl⟩
  | @fetched key t s' up got =>
      refine ⟨⟨coherent.placed, ?_, coherent.identified, coherent.targets⟩, rfl⟩
      rintro _ ⟨⟩
      refine ⟨key, Client.key_of_get (fun stored => ?_) got, up⟩
      exact reached.closed stored (coherent.placed key up)

/-- What a reference leads to has the key that is held, and is of the kind that is asked for. -/
theorem Coherent.follows (coherent : m.Coherent) (holds : m.referenceKey name = .ok (some key))
    (follows : Client.Follows around m name s key m' t) :
    m'.Coherent ∧ m'.referenceKey name = m.referenceKey name ∧ t.key = .ok key ∧
      ∀ p r, m.referenceProperty name = .ok (p, r) → checkTarget name r t = .ok () := by
  cases follows with
  | remembered there fits =>
      exact ⟨coherent, rfl, fits, fun p r named => coherent.targets name p r t named there⟩
  | fetched named got checked =>
      have right : ∀ p' r', m.referenceProperty name = .ok (p', r') →
          checkTarget name r' t = .ok () := by
        intro p' r' named'
        cases named.symm.trans named'
        exact checked
      rcases exists_of_referenceKey holds with ⟨p', r', -, held⟩
      refine ⟨⟨coherent.placed, coherent.parent, coherent.identified, ?_⟩, rfl, ?_, right⟩
      · intro name' p' r' known named' found
        rcases learns_remember right name' p' r' known named' found with before | checked
        · exact coherent.targets name' p' r' known named' before
        · exact checked
      · exact Client.key_of_get (fun _ => coherent.identified p'.attributeName key held) got

end Model

/-! ## Uses -/

/-- What is done with an instance: besides operations, a property can assign a value by itself, and
the instance can be asked for its parent and for what a reference leads to. -/
inductive Use where
  | operate (operation : Operation)
  | assign (p : Property) (v : Value)
  | parent
  | reference (name : String)

/-- Validates a value and holds it for a property, and forgets nothing. -/
def Model.assignInPlace (p : Property) (v : Value) : Action Model Unit := do
  let v ← p.validate v
  Action.update (·.hold p.attributeName v)

/-- The call of a use, with its answer left aside. -/
def Use.call {σ T : Type} (c : Client σ T) : Use → Action (Model × σ) Unit
  | .operate operation => (fun _ => ()) <$> operation.call c
  | .assign p v => Action.on .first (Model.assignInPlace p v)
  | .parent => (fun _ => ()) <$> c.parentInPlace
  | .reference name => (fun _ => ()) <$> c.referenceInPlace name

/-- A use in some surroundings, on a store that can be reached. -/
structure Visit where
  use : Use
  around : Surroundings
  store : Store
  reached : store.Reached

/-- The instance after a visit, whatever that came to. -/
def Visit.run (visit : Visit) (m : Model) : Model :=
  ((visit.use.call visit.around.client).runOn (m, visit.store)).2.1

theorem Visit.run_operate (operation : Operation) (around : Surroundings) (s : Store)
    (reached : s.Reached) (m : Model) :
    Visit.run ⟨.operate operation, around, s, reached⟩ m =
      ((⟨operation, around, s⟩ : Step).run m).2.1 := by
  simp [Visit.run, Use.call, Step.run]

/-- The instance after some visits. -/
def Model.visited (m : Model) (visits : List Visit) : Model :=
  visits.foldl (fun m visit => visit.run m) m

namespace Model

variable {m : Model}

theorem Addressed.congr {m' : Model} (addressed : m.Addressed) (schema : m'.schema = m.schema)
    (identity : m'.identity = m.identity) (entity : m'.entity = m.entity) : m'.Addressed where
  kind_ne := by
    rw [kind, schema]
    exact addressed.kind_ne
  saved := by
    rw [entity, identity]
    exact addressed.saved
  identified := by
    rw [identity]
    exact addressed.identified
  named := by
    rw [identity]
    exact addressed.named

/-- What an instance becomes by a visit: an operation runs, a validated value is held, or the
instance remembers more of what its parent and its references led to. -/
inductive Visited (m : Model) : Model → Prop where
  | unchanged : Visited m m
  | operated (step : Step) : Visited m (step.run m).2.1
  | assigned {p : Property} {v : Value} (attr : String) (holds : p.Holds v) :
      Visited m (m.hold attr v)
  | rose {around : Surroundings} {m' : Model} {s : Store} (reached : s.Reached)
      (rises : Client.Rises around m s m') : Visited m m'
  | followed {around : Surroundings} {m' t : Model} {name : String} {key : Key} {s : Store}
      (holds : m.referenceKey name = .ok (some key))
      (follows : Client.Follows around m name s key m' t) : Visited m m'

theorem visited_of_run (visit : Visit) (m : Model) : m.Visited (visit.run m) := by
  rcases visit with ⟨use, around, s, reached⟩
  cases use with
  | operate operation =>
      rw [Visit.run_operate]
      exact .operated _
  | assign p v =>
      simp only [Visit.run, Use.call, Action.on, Part.first, Action.runOn_ofFunction,
        assignInPlace, Action.runOn_bind, Action.runOn_lift]
      cases validated : p.validate v with
      | error cause => exact .unchanged
      | ok w => exact .assigned p.attributeName (Property.holds_of_validate validated)
  | parent =>
      simp only [Visit.run, Use.call, Action.runOn_map, Client.runOn_parentInPlace]
      rcases answered : (around.client.parent m).runOn s with ⟨cause | ⟨m', found⟩, s'⟩
      · exact .unchanged
      · exact .rose reached (Client.rises_of_parent answered).2
  | reference name =>
      simp only [Visit.run, Use.call, Action.runOn_map, Client.runOn_referenceInPlace]
      rcases answered : (around.client.reference m name).runOn s with ⟨cause | ⟨m', found⟩, s'⟩
      · exact .unchanged
      · rcases Client.follows_of_reference answered with ⟨rfl, -⟩ | ⟨key, t, holds, -, follows⟩
        · exact .unchanged
        · exact .followed holds follows

theorem Addressed.visit (addressed : m.Addressed) {m' : Model} (visited : m.Visited m') :
    m'.Addressed := by
  cases visited with
  | unchanged => exact addressed
  | operated step => exact addressed.step step
  | assigned => exact addressed.congr rfl rfl rfl
  | rose _ rises =>
      cases rises with
      | remembered => exact addressed
      | fetched => exact addressed.congr rfl rfl rfl
  | followed _ follows =>
      cases follows with
      | remembered => exact addressed
      | fetched => exact addressed.congr rfl rfl rfl

theorem Coherent.visit (coherent : m.Coherent) (addressed : m.Addressed) {m' : Model}
    (visited : m.Visited m') : m'.Coherent := by
  cases visited with
  | unchanged => exact coherent
  | operated step => exact coherent.step addressed step
  | assigned attr holds => exact coherent.hold holds attr
  | rose reached rises => exact (coherent.rises reached rises).1
  | followed holds follows => exact (coherent.follows holds follows).1

theorem Addressed.visits (addressed : m.Addressed) (visits : List Visit) :
    (m.visited visits).Addressed := by
  induction visits generalizing m with
  | nil => exact addressed
  | cons visit visits inductionHypothesis =>
      exact inductionHypothesis (addressed.visit (visited_of_run visit m))

theorem Coherent.visits (coherent : m.Coherent) (addressed : m.Addressed) (visits : List Visit) :
    (m.visited visits).Coherent := by
  induction visits generalizing m with
  | nil => exact coherent
  | cons visit visits inductionHypothesis =>
      have visited := visited_of_run visit m
      exact inductionHypothesis (coherent.visit addressed visited) (addressed.visit visited)

end Model

end EntityStore
