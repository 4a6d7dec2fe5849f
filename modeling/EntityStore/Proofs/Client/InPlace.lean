import EntityStore.Client
import EntityStore.Proofs.Action
import EntityStore.Proofs.Model.Edits

/-!
# Instances in place

A program holds an instance and changes it in place.  Every operation first does all that can fail,
and only then touches the instance, so it either does what it is asked for or leaves the instance as
it was.  The one that looks at what it has removed only fails where there was nothing to remove.
-/

namespace EntityStore

namespace Action

variable {σ α : Type} {s : σ} {cause : Failure}

/-- Whether an action on a state comes to a result, and leaves the state alone where that is a
failure. -/
def ComesTo (x : Action σ Unit) (s : σ) (result : Except Failure σ) : Prop :=
  x.runOn s = match result with
    | .ok s' => (.ok (), s')
    | .error cause => (.error (.failure cause), s)

theorem ComesTo.eq_ok {x : Action σ Unit} {result : Except Failure σ} {s' : σ}
    (comesTo : x.ComesTo s result) (answered : x.runOn s = (.ok (), s')) : result = .ok s' := by
  unfold ComesTo at comesTo
  rw [answered] at comesTo
  cases result with
  | error cause => cases comesTo
  | ok s' =>
      cases comesTo
      rfl

theorem ComesTo.unchanged {x : Action σ Unit} {result : Except Failure σ} {s' : σ}
    {cause : Interruption} (comesTo : x.ComesTo s result)
    (failed : x.runOn s = (.error cause, s')) : s' = s := by
  unfold ComesTo at comesTo
  rw [failed] at comesTo
  cases result with
  | error cause =>
      cases comesTo
      rfl
  | ok s' => cases comesTo

theorem comesTo_lift {e : Except Failure α} {k : α → Action σ Unit} {r : α → Except Failure σ}
    (rest : ∀ a, e = .ok a → (k a).ComesTo s (r a)) :
    (liftM e >>= k : Action σ Unit).ComesTo s (e >>= r) := by
  unfold ComesTo
  rw [runOn_bind, runOn_lift]
  cases e with
  | error cause => rfl
  | ok a => exact rest a rfl

theorem comesTo_fail (k : Unit → Action σ Unit) (r : Unit → Except Failure σ) :
    (Action.fail cause >>= k).ComesTo s (throw cause >>= r) :=
  rfl

theorem comesTo_read {k : σ → Action σ Unit} {result : Except Failure σ}
    (rest : (k s).ComesTo s result) : (Action.read id >>= k).ComesTo s result :=
  rest

end Action

namespace Model

variable {name : String} {p : Property} {v : Value} {target : Model}

/-! ## Edits -/

/-- Validates a value and holds it, and forgets where the property led. -/
def setDeclaredInPlace (name : String) (p : Property) (v : Value) : Action Model Unit := do
  let v ← p.validate v
  Action.update (·.hold p.attributeName v)
  Action.update (·.forget name)

/-- Holds a dynamic value, or drops the one it had for null. -/
def setUndeclaredInPlace (name : String) (v : Value) : Action Model Unit := do
  Schema.checkName name
  if name.toList.head? = some '_' then Action.fail (.underscoredName name)
  match v with
  | .null => Action.update fun m => { m with dynamic := m.dynamic.erase name }
  | .list [] => Action.fail (.emptyDynamicList name)
  | v => do
    v.checkDynamic name
    Action.update fun m => { m with dynamic := m.dynamic.insert name v }

/-- Sets a dynamic property, or a declared one of that name. -/
def setDynamicInPlace (name : String) (v : Value) : Action Model Unit := do
  let m ← Action.read id
  m.requireExpando
  match m.schema.property? name with
  | some p => setDeclaredInPlace name p v
  | none => setUndeclaredInPlace name v

/-- Sets a declared property, or a dynamic one where the schema admits it. -/
def setInPlace (name : String) (v : Value) : Action Model Unit := do
  let m ← Action.read id
  match m.schema.property? name with
  | some p => setDeclaredInPlace name p v
  | none =>
    if m.schema.isExpando then setDynamicInPlace name v
    else Action.fail (.noProperty m.kind name)

/-- Holds the key of another instance and remembers the instance. -/
def setReferenceInPlace (name : String) (target : Model) : Action Model Unit := do
  let m ← Action.read id
  let (p, r) ← m.referenceProperty name
  if !target.hasKey then Action.fail (.referenceIncomplete r.label)
  checkTarget name r target
  let key ← target.key
  let v ← p.validate (.key key)
  Action.update (·.hold p.attributeName v)
  Action.update (·.remember name target)

/-- Removes a dynamic value, and fails afterwards if there was none. -/
def deleteDynamicInPlace (name : String) : Action Model Unit := do
  let m ← Action.read id
  m.requireExpando
  if (m.schema.property? name).isSome then Action.fail (.deleteDeclared name)
  Action.update fun m => { m with dynamic := m.dynamic.erase name }
  if m.dynamic.contains name then return else Action.fail (.noProperty m.kind name)

variable {m : Model}

theorem comesTo_setDeclared : (setDeclaredInPlace name p v).ComesTo m (m.setDeclared name p v) := by
  simp only [setDeclaredInPlace, setDeclared, assign, bind_assoc]
  apply Action.comesTo_lift
  intro w _
  rfl

theorem comesTo_setUndeclared :
    (setUndeclaredInPlace name v).ComesTo m (m.setUndeclared name v) := by
  apply Action.comesTo_lift
  intro _ _
  by_cases underscored : name.toList.head? = some '_'
  · simp only [if_pos underscored]
    exact Action.comesTo_fail _ _
  · simp only [if_neg underscored]
    cases v with
    | null => rfl
    | list items =>
        cases items with
        | nil => rfl
        | cons first rest => exact Action.comesTo_lift fun _ _ => rfl
    | _ => exact Action.comesTo_lift fun _ _ => rfl

theorem comesTo_setDynamic : (setDynamicInPlace name v).ComesTo m (m.setDynamic name v) := by
  apply Action.comesTo_read
  apply Action.comesTo_lift
  intro _ _
  cases m.schema.property? name with
  | some p => exact comesTo_setDeclared
  | none => exact comesTo_setUndeclared

theorem comesTo_set : (setInPlace name v).ComesTo m (m.set name v) := by
  apply Action.comesTo_read
  unfold set
  cases m.schema.property? name with
  | some p => exact comesTo_setDeclared
  | none =>
      by_cases expando : m.schema.isExpando = true
      · simp only [if_pos expando]
        exact comesTo_setDynamic
      · simp only [if_neg expando]
        rfl

theorem comesTo_setReference :
    (setReferenceInPlace name target).ComesTo m (m.setReference name target) := by
  apply Action.comesTo_read
  apply Action.comesTo_lift
  rintro ⟨p, r⟩ _
  by_cases unkeyed : (!target.hasKey) = true
  · simp only [if_pos unkeyed]
    exact Action.comesTo_fail _ _
  · simp only [if_neg unkeyed]
    apply Action.comesTo_lift
    intro _ _
    apply Action.comesTo_lift
    intro key _
    simp only [assign, bind_assoc]
    apply Action.comesTo_lift
    intro w _
    rfl

theorem erase_of_not_contains {fields : Fields} (missing : ¬ fields.contains name = true) :
    fields.erase name = fields := by
  apply Std.ExtTreeMap.ext_getElem?
  intro name'
  rw [Std.ExtTreeMap.getElem?_erase]
  split
  next same =>
    rw [Std.compare_eq_iff_eq] at same
    subst same
    exact (Std.ExtTreeMap.getElem?_eq_none missing).symm
  · rfl

theorem comesTo_deleteDynamic : (deleteDynamicInPlace name).ComesTo m (m.deleteDynamic name) := by
  apply Action.comesTo_read
  apply Action.comesTo_lift
  intro _ _
  by_cases declared : (m.schema.property? name).isSome = true
  · simp only [if_pos declared]
    exact Action.comesTo_fail _ _
  · simp only [if_neg declared]
    by_cases there : m.dynamic.contains name = true
    · simp only [if_pos there]
      rfl
    · have same : { m with dynamic := m.dynamic.erase name } = m := by
        rw [erase_of_not_contains there]
        cases m
        rfl
      simp only [if_neg there, Action.ComesTo, Action.runOn_bind, Action.runOn_update, same]
      rfl

end Model

namespace Edit

/-- An edit as it goes. -/
def inPlace : Edit → Action Model Unit
  | .set name v => Model.setInPlace name v
  | .setReference name target => Model.setReferenceInPlace name target
  | .setDynamic name v => Model.setDynamicInPlace name v
  | .deleteDynamic name => Model.deleteDynamicInPlace name

/-- An edit changes the instance as it should, or not at all. -/
theorem comesTo_inPlace (edit : Edit) (m : Model) : edit.inPlace.ComesTo m (edit.apply m) := by
  cases edit with
  | set => exact Model.comesTo_set
  | setReference => exact Model.comesTo_setReference
  | setDynamic => exact Model.comesTo_setDynamic
  | deleteDynamic => exact Model.comesTo_deleteDynamic

end Edit

/-! ## Puts and deletions -/

namespace Client

variable {σ T : Type} (c : Client σ T)

/-- Writes an instance that is held beside the state of the client. -/
def putInPlace : Action (Model × σ) Key := do
  let m ← Action.read Prod.fst
  let e ← Action.on .second (c.record m)
  match ← Action.on .second (c.datastore.put [e] c.options) with
  | key :: _ =>
    Action.update fun (m, s) => (m.markSaved e key, s)
    return key
  | [] => Action.fail .noKeyReturned

/-- Writes a list of instances that are held beside the state of the client, all in one call. -/
def putAllInPlace : Action (List Model × σ) (List Key) := do
  let ms ← Action.read Prod.fst
  let es ← Action.on .second (ms.mapM c.record)
  let keys ← Action.on .second (c.datastore.put es c.options)
  if keys.length ≠ ms.length then Action.fail (.keyCount keys.length ms.length)
  Action.update fun (ms, s) =>
    ((ms.zip (es.zip keys)).map fun (m, e, key) => m.markSaved e key, s)
  return keys

/-- Deletes the record of an instance: the instance lets go of it and keeps its key. -/
def deleteInPlace : Action (Model × σ) Unit := do
  let m ← Action.read Prod.fst
  let key ← m.key
  Action.on .second (c.datastore.delete [key] c.options)
  Action.update fun (m, s) => ({ m with entity := none }, s)
  Action.update fun (m, s) => ({ m with identity := .key key }, s)

theorem runOn_putInPlace (m : Model) (s : σ) :
    c.putInPlace.runOn (m, s) = match (c.put m).runOn s with
      | (.ok (m', key), s') => (.ok key, (m', s'))
      | (.error cause, s') => (.error cause, (m, s')) := by
  simp only [putInPlace, put, Action.runOn_bind, Action.runOn_read, Action.on, Part.second,
    Action.runOn_ofFunction]
  rcases (c.record m).runOn s with ⟨cause | e, s₁⟩
  · rfl
  · dsimp only
    rcases (c.datastore.put [e] c.options).runOn s₁ with ⟨cause | keys, s₂⟩
    · rfl
    · cases keys <;> rfl

theorem runOn_putAllInPlace (ms : List Model) (s : σ) :
    c.putAllInPlace.runOn (ms, s) = match (c.putAll ms).runOn s with
      | (.ok (ms', keys), s') => (.ok keys, (ms', s'))
      | (.error cause, s') => (.error cause, (ms, s')) := by
  simp only [putAllInPlace, putAll, Action.runOn_bind, Action.runOn_read, Action.on, Part.second,
    Action.runOn_ofFunction]
  rcases (ms.mapM c.record).runOn s with ⟨cause | es, s₁⟩
  · rfl
  · dsimp only
    rcases (c.datastore.put es c.options).runOn s₁ with ⟨cause | keys, s₂⟩
    · rfl
    · by_cases short : keys.length ≠ ms.length
      · simp only [if_pos short]
        rfl
      · simp only [if_neg short]
        rfl

theorem runOn_deleteInPlace (m : Model) (s : σ) :
    c.deleteInPlace.runOn (m, s) = match (c.delete m).runOn s with
      | (.ok m', s') => (.ok (), (m', s'))
      | (.error cause, s') => (.error cause, (m, s')) := by
  simp only [deleteInPlace, delete, Action.runOn_bind, Action.runOn_read, Action.on, Part.second,
    Action.runOn_ofFunction, Action.runOn_lift]
  cases m.key with
  | error cause => rfl
  | ok key =>
      simp only [Except.mapError]
      rcases (c.datastore.delete [key] c.options).runOn s with ⟨cause | _, s₁⟩ <;> rfl

/-! ## Parents and references -/

/-- Fetches the parent if it is not remembered, and remembers it. -/
def parentInPlace : Action (Model × σ) (Option Model) := do
  let m ← Action.read Prod.fst
  match m.parent with
  | some parent => return some parent
  | none =>
    match m.parentKey? with
    | none => return none
    | some key =>
      match ← Action.on .second (c.get key) with
      | some parent => do
        Action.update fun (m, s) => ({ m with parent := some parent }, s)
        Action.read (·.1.parent)
      | none => return none

/-- Fetches and remembers the instance of a key. -/
def fetchInPlace (name : String) (r : Reference) (key : Key) : Action (Model × σ) Unit := do
  match ← Action.on .second (c.get key) with
  | none => Action.fail (.unresolvedReference name key)
  | some target => do
    Model.checkTarget name r target
    Action.update fun (m, s) => (m.remember name target, s)

/-- Fetches what a reference property leads to, unless the instance of that key is remembered, and
answers what is remembered then. -/
def referenceInPlace (name : String) : Action (Model × σ) (Option Model) := do
  let m ← Action.read Prod.fst
  let (_, r) ← m.referenceProperty name
  match ← m.referenceKey name with
  | none => return none
  | some key => do
    if !(m.resolved? name).any fun known => known.key.toOption = some key then
      c.fetchInPlace name r key
    Action.read (·.1.resolved? name)

theorem runOn_parentInPlace (m : Model) (s : σ) :
    c.parentInPlace.runOn (m, s) = match (c.parent m).runOn s with
      | (.ok (m', found), s') => (.ok found, (m', s'))
      | (.error cause, s') => (.error cause, (m, s')) := by
  simp only [parentInPlace, parent, Action.runOn_bind, Action.runOn_read]
  cases m.parent with
  | some parent => rfl
  | none =>
      cases m.parentKey? with
      | none => rfl
      | some key =>
          simp only [Action.runOn_bind, Action.on, Part.second, Action.runOn_ofFunction]
          rcases (c.get key).runOn s with ⟨cause | _ | parent, s'⟩ <;> rfl

theorem runOn_fetchInPlace (m : Model) (name : String) (r : Reference) (key : Key) (s : σ) :
    (c.fetchInPlace name r key >>= fun _ => Action.read (·.1.resolved? name)).runOn (m, s) =
      match (reference.fetch c m name r key).runOn s with
      | (.ok (m', found), s') => (.ok found, (m', s'))
      | (.error cause, s') => (.error cause, (m, s')) := by
  simp only [fetchInPlace, reference.fetch, Action.runOn_bind, Action.on, Part.second,
    Action.runOn_ofFunction]
  rcases (c.get key).runOn s with ⟨cause | _ | target, s'⟩
  · rfl
  · rfl
  · simp only [Action.runOn_bind, Action.runOn_lift]
    cases Model.checkTarget name r target with
    | error cause => rfl
    | ok => simp [Except.mapError, Model.resolved?_remember]

theorem runOn_referenceInPlace (m : Model) (name : String) (s : σ) :
    (c.referenceInPlace name).runOn (m, s) = match (c.reference m name).runOn s with
      | (.ok (m', found), s') => (.ok found, (m', s'))
      | (.error cause, s') => (.error cause, (m, s')) := by
  simp only [referenceInPlace, reference, Action.runOn_bind, Action.runOn_read, Action.runOn_lift]
  rcases m.referenceProperty name with cause | ⟨p, r⟩
  · rfl
  · rcases m.referenceKey name with cause | _ | key
    · rfl
    · rfl
    · simp only [Except.mapError]
      cases remembered : m.resolved? name with
      | none => exact c.runOn_fetchInPlace m name r key s
      | some known =>
          by_cases same : known.key.toOption = some key
          · simp [same, remembered]
          · simp only [Option.any_some, same, decide_false, Bool.not_false, if_true, if_false]
            exact c.runOn_fetchInPlace m name r key s

variable {c : Client σ T} {m m' : Model} {found : Option Model} {name : String} {s s' : σ}

/-- What is answered in place is what the call answers, and the instance is the one it returns. -/
theorem parent_of_inPlace (answered : c.parentInPlace.runOn (m, s) = (.ok found, m', s')) :
    (c.parent m).runOn s = (.ok (m', found), s') := by
  rw [runOn_parentInPlace] at answered
  rcases ran : (c.parent m).runOn s with ⟨cause | ⟨m₁, found₁⟩, s₁⟩
  · simp [ran] at answered
  · rw [ran] at answered
    cases answered
    rfl

theorem reference_of_inPlace
    (answered : (c.referenceInPlace name).runOn (m, s) = (.ok found, m', s')) :
    (c.reference m name).runOn s = (.ok (m', found), s') := by
  rw [runOn_referenceInPlace] at answered
  rcases ran : (c.reference m name).runOn s with ⟨cause | ⟨m₁, found₁⟩, s₁⟩
  · simp [ran] at answered
  · rw [ran] at answered
    cases answered
    rfl

theorem eq_of_referenceInPlace_error {cause : Interruption}
    (failed : (c.referenceInPlace name).runOn (m, s) = (.error cause, m', s')) : m' = m := by
  rw [runOn_referenceInPlace] at failed
  rcases ran : (c.reference m name).runOn s with ⟨cause | ⟨m₁, found⟩, s₁⟩
  · rw [ran] at failed
    cases failed
    rfl
  · simp [ran] at failed

end Client

end EntityStore
