import EntityStore.Schema.Basic

/-!
# Registry of kinds

A registry knows the schema of every kind that has been defined.  Every reference property with a
target kind also creates a collection on that kind, through which the referring instances are
found; a collection may not share its name with another one, nor with a property of the kind.
-/

namespace EntityStore

/-- Where a reverse collection comes from. -/
structure ReverseReference where
  /-- The kind that holds the references. -/
  sourceKind : String
  /-- The attribute of the reference property. -/
  attr : String
  /-- The storage name of the reference property. -/
  storage : String
deriving DecidableEq

/-- The collections of one kind by name. -/
abbrev Collections := Std.ExtTreeMap String ReverseReference

/-- The schemas and collections known so far. -/
structure Registry where
  kinds : Std.ExtTreeMap String Schema := ∅
  collections : Std.ExtTreeMap String Collections := ∅
  allowRedefinition : Bool := false

/-- A collection about to be created on a target kind. -/
structure NewCollection where
  target : String
  name : String
  reverse : ReverseReference
deriving DecidableEq

namespace Registry

/-- A registry without any kinds. -/
def empty (allowRedefinition : Bool) : Registry :=
  { allowRedefinition }

/-- Whether a kind is registered. -/
def contains (r : Registry) (kind : String) : Bool :=
  r.kinds.contains kind

/-- The schema of a kind. -/
def schemaOf (r : Registry) (kind : String) : Except Failure Schema :=
  match r.kinds[kind]? with
  | some schema => return schema
  | none => throw (.unknownKind kind)

/-- All collections on a kind. -/
def collectionsOf (r : Registry) (kind : String) : Collections :=
  r.collections[kind]?.getD ∅

/-- One collection on a kind. -/
def collection? (r : Registry) (kind name : String) : Option ReverseReference :=
  (r.collectionsOf kind)[name]?

/-- The registered kinds, in order. -/
def kindNames (r : Registry) : List String :=
  r.kinds.keys

/-- How many kinds are registered. -/
def size (r : Registry) : Nat :=
  r.kinds.size

/-- The collection that a property creates, if it does. -/
def collectionOf? (kind : String) (p : Property) : Option NewCollection := do
  let reference ← p.reference?
  let target ← reference.targetKind?
  let name ← reference.collection
  return ⟨target, name, ⟨kind, p.attributeName, p.storageName⟩⟩

/-- Whether the target kind has a property of the collection's name. -/
def clashesWithProperty (r : Registry) (schema : Schema) (c : NewCollection) : Bool :=
  if c.target = schema.kind then (schema.property? c.name).isSome
  else
    match r.kinds[c.target]? with
    | some target => (target.property? c.name).isSome
    | none => false

/-- Whether another property has created a collection of this name on the target kind. -/
def clashesWithCollection (r : Registry) (c : NewCollection) : Bool :=
  match r.collection? c.target c.name with
  | some current => current != c.reverse
  | none => false

/-- Adds a collection to those about to be created, unless its name is taken. -/
def addPending (r : Registry) (schema : Schema) (pending : List NewCollection) (c : NewCollection) :
    Except Failure (List NewCollection) :=
  if r.clashesWithProperty schema c ||
      pending.any (fun other => other.target = c.target && other.name = c.name) ||
      r.clashesWithCollection c then
    throw (.collectionClash c.target c.name)
  else return pending ++ [c]

/-- Creates one collection. -/
def insertCollection (collections : Std.ExtTreeMap String Collections) (c : NewCollection) :
    Std.ExtTreeMap String Collections :=
  collections.insert c.target ((collections[c.target]?.getD ∅).insert c.name c.reverse)

/-- Refuses a kind that is there already, unless kinds may be redefined. -/
def checkKind (r : Registry) (kind : String) : Except Failure Unit :=
  if r.contains kind && !r.allowRedefinition then throw (.kindRegistered kind) else return

/-- Refuses a schema with a property named like a collection that another kind has created on
it. -/
def checkProperties (r : Registry) (schema : Schema) : Except Failure Unit :=
  let clash := (r.collectionsOf schema.kind).toList.find? fun (name, reverse) =>
    (schema.property? name).isSome && reverse.sourceKind != schema.kind
  match clash with
  | some (name, _) => throw (.collectionClash schema.kind name)
  | none => return

/-- Registers a schema and the collections of its own reference properties, all or nothing. -/
def register (r : Registry) (schema : Schema) : Except Failure Registry := do
  r.checkKind schema.kind
  r.checkProperties schema
  let created := schema.declaredProperties.filterMap (collectionOf? schema.kind)
  let pending ← created.foldlM (r.addPending schema) []
  return { r with
    collections := pending.foldl insertCollection r.collections
    kinds := r.kinds.insert schema.kind schema }

/-- Defines a schema; an abstract one is not registered. -/
def define (r : Registry) (d : Definition) : Except Failure (Schema × Registry) := do
  let schema ← d.assemble
  if schema.isAbstract then return (schema, r)
  else return (schema, ← r.register schema)

end Registry

end EntityStore
