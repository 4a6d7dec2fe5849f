import EntityStore.Key.Build
import EntityStore.Property.Storage
import EntityStore.Schema.Basic

/-!
# Instances

An instance belongs to a schema.  It has an identity, a validated value for every declared
property, dynamic values if its kind allows them, and, once it was saved or loaded, the record it
was written to.  It also remembers the instances that its references and its parent led to.
-/

namespace EntityStore

/-- How an instance is addressed while it has no record. -/
inductive Identity where
  /-- By a key. -/
  | key (key : Key)
  /-- By an optional name under an optional parent, from which a key is made when it is needed. -/
  | pending (name : Option String) (parent : Option Key)
deriving DecidableEq

/-- An instance of a schema. -/
structure Model where
  schema : Schema
  identity : Identity
  /-- The record of the last save or load. -/
  entity : Option Entity := none
  /-- The declared values by attribute. -/
  values : Fields := ∅
  /-- The dynamic values by name. -/
  dynamic : Fields := ∅
  /-- The instances that references led to, by attribute. -/
  resolved : List (String × Model) := []
  /-- The parent instance, if it was given or fetched. -/
  parent : Option Model := none

namespace Model

/-- The kind of an instance is that of its schema. -/
def kind (m : Model) : String :=
  m.schema.kind

/-- Whether the instance has a record. -/
def isSaved (m : Model) : Bool :=
  m.entity.isSome

/-- Whether the instance has a key. -/
def hasKey (m : Model) : Bool :=
  m.isSaved ||
    match m.identity with
    | .key _ => true
    | .pending name _ => name.isSome

/-- The key of the instance. -/
def key (m : Model) : Except Failure Key :=
  match m.entity with
  | some e => return e.key
  | none =>
    match m.identity with
    | .key k => return k
    | .pending (some name) parent => Key.build parent m.kind (.name name)
    | .pending none _ => throw (.noKeyYet m.kind)

/-- The key that a write uses; it is open when the store has to choose an identifier. -/
def writeKey (m : Model) : Except Failure Key :=
  match m.entity with
  | some e => return e.key
  | none =>
    match m.identity with
    | .key k => return k
    | .pending (some name) parent => Key.build parent m.kind (.name name)
    | .pending none parent => Key.incomplete parent m.kind

/-- The key of the parent. -/
def parentKey? (m : Model) : Option Key :=
  match m.identity with
  | .pending _ (some parent) => some parent
  | .key k => k.parent?
  | .pending _ none => m.entity.bind fun e => e.key.parent?

/-- The value held for an attribute. -/
def value (m : Model) (attr : String) : Value :=
  m.values[attr]?.getD .null

/-- Holds a value for an attribute as it is. -/
def hold (m : Model) (attr : String) (v : Value) : Model :=
  { m with values := m.values.insert attr v }

/-- The value of a declared or dynamic property. -/
def get (m : Model) (name : String) : Except Failure Value :=
  match m.schema.property? name with
  | some p => return m.value p.attributeName
  | none =>
    match if m.schema.isExpando then m.dynamic[name]? else none with
    | some v => return v
    | none => throw (.noProperty m.kind name)

/-- The values of all declared properties by attribute. -/
def declaredValues (m : Model) : Fields :=
  m.schema.properties.foldl
    (fun values p => values.insert p.attributeName (m.value p.attributeName)) ∅

/-- Validates a value and holds it for a property. -/
def assign (m : Model) (p : Property) (v : Value) : Except Failure Model := do
  let v ← p.validate v
  return m.hold p.attributeName v

/-- The instance that a reference property is known to lead to. -/
def resolved? (m : Model) (attr : String) : Option Model :=
  (m.resolved.find? fun entry => entry.1 = attr).map (·.2)

/-- Forgets where a reference property leads. -/
def forget (m : Model) (attr : String) : Model :=
  { m with resolved := m.resolved.filter fun entry => entry.1 != attr }

/-- Remembers where a reference property leads. -/
def remember (m : Model) (attr : String) (target : Model) : Model :=
  { m with resolved := (attr, target) :: (m.forget attr).resolved }

/-- The value that stands for an instance: its key. -/
def asValue (m : Model) : Except Failure Value :=
  m.key.map .key

end Model

end EntityStore
