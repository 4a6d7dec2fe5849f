import EntityStore.Model.Builder
import EntityStore.Model.Record
import EntityStore.Query.Builder
import EntityStore.Schema.Registry
import EntityStore.Store.Interface

/-!
# Clients

A client brings together a store, the registered kinds, what automatic properties are filled from,
and the settings.  The body of a transaction is given a client whose store is the transaction, so
the same operations run inside and outside of transactions.
-/

namespace EntityStore

/-- A client that works on a state `σ`. -/
structure Client (σ T : Type) where
  datastore : Datastore σ T
  registry : σ → Registry
  /-- The current time and user. -/
  moment : Action σ Moment
  configuration : Configuration

namespace Client

variable {σ T α : Type}

/-- What the client passes along with every call of its store. -/
def options (c : Client σ T) : CallOptions :=
  c.configuration.callOptions

/-- The client that the body of a transaction is given. -/
def inside (c : Client σ T) (view : Storage (T × σ)) : Client (T × σ) Empty where
  datastore := view.withoutTransactions
  registry := fun (_, s) => c.registry s
  moment := Action.on .second c.moment
  configuration := c.configuration

/-- A query over the instances of a schema. -/
def query (c : Client σ T) (schema : Schema) : Query :=
  { Query.ofSchema schema with maxSets := c.configuration.maxQuerySets }

/-- A query over all kinds. -/
def kindlessQuery (c : Client σ T) : Query :=
  { Query.kindless with maxSets := c.configuration.maxQuerySets }

/-- A query over everything below an instance. -/
def descendants (c : Client σ T) (m : Model) : Except Failure Query := do
  let key ← m.key
  let q ← c.kindlessQuery.under key
  q.filter (Key.propertyName ++ " >") (.key key)

/-- Rebuilds an instance of whatever kind a record has. -/
def load (c : Client σ T) (e : Entity) : Action σ Model := do
  let registry ← Action.read c.registry
  let schema ← registry.schemaOf e.kind
  Model.fromEntity schema e (← c.moment)

/-- Rebuilds an instance of a schema, or of a kind that extends it. -/
def loadAs (c : Client σ T) (schema : Schema) (e : Entity) : Action σ Model := do
  let registry ← Action.read c.registry
  let own ← if e.kind = schema.kind then pure schema else registry.schemaOf e.kind
  if !own.isSubkindOf schema.kind then Action.fail (.notASubkind own.kind schema.kind)
  Model.fromEntity own e (← c.moment)

/-- Applies an action to a record that is there. -/
def onRecord (load : Entity → Action σ α) : Option Entity → Action σ (Option α)
  | some e => some <$> load e
  | none => return none

/-- The instances of some keys, of any kinds. -/
def getMany (c : Client σ T) (keys : List Key) : Action σ (List (Option Model)) := do
  let found ← c.datastore.get keys c.options
  found.mapM (onRecord c.load)

/-- The answer for a single key. -/
def single (found : List (Option α)) : Option α :=
  found.getLast?.join

/-- The instance of a key, of any kind. -/
def get (c : Client σ T) (key : Key) : Action σ (Option Model) := do
  return single (← c.getMany [key])

/-- The instances of some keys that belong to a schema. -/
def findMany (c : Client σ T) (schema : Schema) (keys : List Key) :
    Action σ (List (Option Model)) := do
  let found ← c.datastore.get keys c.options
  found.mapM (onRecord (c.loadAs schema))

/-- The instance of a key that belongs to a schema. -/
def find (c : Client σ T) (schema : Schema) (key : Key) : Action σ (Option Model) := do
  return single (← c.findMany schema [key])

/-- The instance with an identifier. -/
def findBy (c : Client σ T) (schema : Schema) (id : Identifier) (parent : Option Key) :
    Action σ (Option Model) := do
  let key ← Key.build parent schema.kind id
  c.find schema key

/-- The instances with some identifiers. -/
def findManyBy (c : Client σ T) (schema : Schema) (ids : List Identifier) (parent : Option Key) :
    Action σ (List (Option Model)) := do
  let keys ← (ids.mapM (Key.build parent schema.kind) : Except Failure (List Key))
  c.findMany schema keys

/-- Builds a new instance. -/
def build (c : Client σ T) (b : Builder) : Action σ Model := do
  b.build (← c.moment)

/-- The record of an instance. -/
def record (c : Client σ T) (m : Model) : Action σ Entity := do
  m.toEntity (← c.moment)

/-- Writes an instance, which takes on the key that the store answers. -/
def put (c : Client σ T) (m : Model) : Action σ (Model × Key) := do
  let e ← c.record m
  match ← c.datastore.put [e] c.options with
  | key :: _ => return (m.markSaved e key, key)
  | [] => Action.fail .noKeyReturned

/-- Writes several instances in one call. -/
def putAll (c : Client σ T) (ms : List Model) : Action σ (List Model × List Key) := do
  let es ← ms.mapM c.record
  let keys ← c.datastore.put es c.options
  if keys.length ≠ ms.length then Action.fail (.keyCount keys.length ms.length)
  return ((ms.zip (es.zip keys)).map fun (m, e, key) => m.markSaved e key, keys)

/-- Deletes the record of an instance, which keeps its key. -/
def delete (c : Client σ T) (m : Model) : Action σ Model := do
  let key ← m.key
  c.datastore.delete [key] c.options
  return m.markDeleted key

/-- Deletes the records of some keys. -/
def deleteKeys (c : Client σ T) (keys : List Key) : Action σ Unit :=
  c.datastore.delete keys c.options

/-- Reserves ids below a key. -/
def allocateIds (c : Client σ T) (key : Key) (count : Nat) : Action σ (Int64 × Int64) :=
  c.datastore.allocateIds key count c.options

/-- Runs a body as a transaction; it may run more than once. -/
def runInTransaction (c : Client σ T) (body : Client (T × σ) Empty → Action (T × σ) α) :
    Action σ α := do
  match ← c.datastore.runInTransaction (fun view => body (c.inside view)) c.options with
  | some a => return a
  | none => Action.fail .transactionResult

/-- The description of an instance with a name and values. -/
def named (schema : Schema) (name : String) (parent : Option Key)
    (values : List (String × Value)) : Builder where
  schema := schema
  name := some name
  parent := parent.map .key
  fields := values.map fun (name, v) => (name, .value v)

/-- The instance with a name, written with the given values if there is none yet. -/
def getOrInsertInside (c : Client σ T) (schema : Schema) (name : String) (parent : Option Key)
    (values : List (String × Value)) : Action σ Model := do
  match ← c.findBy schema (.name name) parent with
  | some existing => return existing
  | none =>
    let m ← c.build (named schema name parent values)
    return (← c.put m).1

/-- The instance with a name, written with the given values if there is none yet; looking and
writing are one transaction. -/
def getOrInsert (c : Client σ T) (schema : Schema) (name : String) (parent : Option Key)
    (values : List (String × Value)) : Action σ Model :=
  c.runInTransaction fun inner => inner.getOrInsertInside schema name parent values

/-- The parent of an instance, fetched the first time it is asked for. -/
def parent (c : Client σ T) (m : Model) : Action σ (Model × Option Model) := do
  match m.parent with
  | some parent => return (m, some parent)
  | none =>
    match m.parentKey? with
    | none => return (m, none)
    | some key =>
      match ← c.get key with
      | some parent => return ({ m with parent := some parent }, some parent)
      | none => return (m, none)

/-- The instance that a reference property leads to, fetched the first time it is asked for. -/
def reference (c : Client σ T) (m : Model) (name : String) : Action σ (Model × Option Model) := do
  let (_, r) ← m.referenceProperty name
  match ← m.referenceKey name with
  | none => return (m, none)
  | some key =>
    match m.resolved? name with
    | some known =>
      if known.key.toOption = some key then return (m, some known)
      else fetch r key
    | none => fetch r key
where
  /-- Fetches and remembers the instance of a key. -/
  fetch (r : Reference) (key : Key) : Action σ (Model × Option Model) := do
    match ← c.get key with
    | none => Action.fail (.unresolvedReference name key)
    | some target =>
      Model.checkTarget name r target
      return (m.remember name target, some target)

/-- Where a collection of an instance comes from: its own kind first, then the kinds it extends,
nearest first. -/
def reverseReference (registry : Registry) (m : Model) (collection : String) :
    Except Failure ReverseReference :=
  match m.schema.lineage.findSome? fun kind => registry.collection? kind collection with
  | some reverse => return reverse
  | none => throw (.noCollection m.kind collection)

/-- A query over the instances that refer to an instance through a collection. -/
def reverseCollection (c : Client σ T) (m : Model) (collection : String) : Action σ Query := do
  let registry ← Action.read c.registry
  let reverse ← reverseReference registry m collection
  let source ← registry.schemaOf reverse.sourceKind
  let key ← m.key
  (c.query source).filter (reverse.attr ++ " =") (.key key)

/-- The names of the collections of an instance, in order and without repetition. -/
def reverseCollections (registry : Registry) (m : Model) : List String :=
  (m.schema.lineage.foldl
    (fun names kind =>
      (registry.collectionsOf kind).foldl (fun names name _ => names.insert name) names)
    (∅ : Names)).toList

end Client

end EntityStore
