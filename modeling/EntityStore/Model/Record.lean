import EntityStore.Model.Dynamic

/-!
# Instances and records

An instance is written as a record and rebuilt from one.  An empty list leaves no field.  Writing
starts from the record that the instance was loaded from, so fields that no property declares are
kept; only expando instances own all fields and drop those that they no longer have.

Loading is lenient: a stored value that its property would refuse is kept as it is.
-/

namespace EntityStore.Model

/-- Writes one declared property into a record. -/
def writeProperty (m : Model) (moment : Moment) (e : Entity) (p : Property) :
    Except Failure Entity := do
  match ← p.valueForStorage (m.value p.attributeName) moment with
  | .list [] => return e.remove p.storageName
  | stored => return e.set p.storageName stored

/-- The names that are not indexed in the record of an instance. -/
def unindexedNames (m : Model) : Names :=
  if m.schema.isExpando then
    m.dynamic.foldl (fun names name v => if v.isLong then names.insert name else names)
      m.schema.unindexed
  else m.schema.unindexed

/-- Writes the dynamic values and drops the fields that belong to nothing. -/
def writeDynamic (m : Model) (e : Entity) : Entity :=
  let e := m.dynamic.foldl (fun e name v => e.set name v) e
  { e with
    fields := e.fields.filter fun name _ =>
      m.dynamic.contains name || (m.schema.propertyByStorageName? name).isSome }

/-- The record of an instance. -/
def toEntity (m : Model) (moment : Moment) : Except Failure Entity := do
  let start ← match m.entity with
    | some e => pure e
    | none => (m.writeKey).map fun key => ({ key } : Entity)
  let e ← m.schema.properties.foldlM (m.writeProperty moment) start
  let e := if m.schema.isExpando then m.writeDynamic e else e
  return { e with unindexed := m.unindexedNames }

/-- The value of a property in a record; a property without a field has its default. -/
def loadedValue (p : Property) (e : Entity) (moment : Moment) : Value :=
  match e.get? p.storageName with
  | some stored =>
    let v := p.valueFromStorage stored
    match p.validate v with
    | .ok valid => valid
    | .error _ => v
  | none => p.valueFromStorage (p.defaultValue { moment with user := none })

/-- Rebuilds an instance from a record. -/
def fromEntity (schema : Schema) (e : Entity) (moment : Moment) : Except Failure Model := do
  if e.kind ≠ schema.kind then throw (.recordOfOtherKind schema.kind e.kind)
  let identity := if e.key.hasIdentifier then .key e.key else .pending none e.key.parent?
  let values := schema.properties.foldl
    (fun values p => values.insert p.attributeName (loadedValue p e moment)) ∅
  let dynamic := if schema.isExpando then
      e.fields.filter fun name _ => (schema.propertyByStorageName? name).isNone
    else ∅
  return {
    schema, identity, values, dynamic
    entity := if e.key.hasIdentifier then some e else none }

/-- Takes note of a write of the given record under the given key. -/
def markSaved (m : Model) (e : Entity) (key : Key) : Model :=
  { m with entity := some { e with key }, identity := .key key }

/-- Takes note of the deletion of the record; the key stays. -/
def markDeleted (m : Model) (key : Key) : Model :=
  { m with entity := none, identity := .key key }

end EntityStore.Model
