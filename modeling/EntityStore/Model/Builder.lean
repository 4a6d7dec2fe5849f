import EntityStore.Model.Reference

/-!
# Building instances

A new instance is described by how it is addressed and by the fields that are set.  It starts from
the defaults of its properties, which need not be complete before the instance is written.
-/

namespace EntityStore

/-- The parent of a new instance. -/
inductive ParentArgument where
  | key (key : Key)
  | model (model : Model)

/-- What a field of a new instance is set to. -/
inductive FieldArgument where
  | value (v : Value)
  | reference (target : Model)

/-- The description of a new instance. -/
structure Builder where
  schema : Schema
  key : Option Key := none
  name : Option String := none
  parent : Option ParentArgument := none
  fields : List (String × FieldArgument) := []

namespace Builder

/-- The key of a given parent. -/
def parentKeyOf : ParentArgument → Except Failure Key
  | .key k => return k
  | .model m => if m.hasKey then m.key else throw (.parentIncomplete m.kind)

/-- The key of the given parent, if one is given. -/
def parentKey (b : Builder) : Except Failure (Option Key) :=
  match b.parent with
  | some parent => (parentKeyOf parent).map some
  | none => return none

/-- Checks a given key against the schema and the other ways of addressing. -/
def checkKey (b : Builder) (key : Key) (parent : Option Key) : Except Failure Unit := do
  if !key.hasIdentifier then throw .keyWithoutIdentifier
  if key.kind ≠ b.schema.kind then throw (.keyOfOtherKind b.schema.kind key.kind)
  if b.name.isSome ∧ key.name? ≠ b.name then throw .keyAgainstName
  if parent.isSome ∧ key.parent? ≠ parent then throw .keyAgainstParent

/-- Checks a name and a parent key. -/
def checkPending (b : Builder) (parent : Option Key) : Except Failure Unit := do
  if b.name = some "" then throw .emptyKeyName
  match parent with
  | some parent => if parent.isComplete then return else throw (.incompleteParent parent)
  | none => return

/-- How the new instance is addressed. -/
def identity (b : Builder) : Except Failure Identity := do
  let parent ← b.parentKey
  match b.key with
  | some key =>
    b.checkKey key parent
    return .key key
  | none =>
    b.checkPending parent
    return .pending b.name parent

/-- Gives one property its default. -/
def startProperty (moment : Moment) (m : Model) (p : Property) : Except Failure Model := do
  let default := p.defaultValue moment
  let v ← if p.isEmptyValue default then pure default else p.validate default
  return m.hold p.attributeName v

/-- Sets one field. -/
def setField (m : Model) (field : String × FieldArgument) : Except Failure Model :=
  match field with
  | (name, .value v) => m.set name v
  | (name, .reference target) => m.setReference name target

/-- Builds the instance. -/
def build (b : Builder) (moment : Moment) : Except Failure Model := do
  if b.schema.isAbstract then throw (.abstractKind b.schema.kind)
  let identity ← b.identity
  let parent := match b.parent with
    | some (.model m) => some m
    | _ => none
  let m : Model := { schema := b.schema, identity, parent }
  let m ← b.schema.properties.foldlM (startProperty moment) m
  b.fields.foldlM setField m

end Builder

end EntityStore
