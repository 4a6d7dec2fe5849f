import EntityStore.Client
import EntityStore.Query.Merge

/-!
# Executing queries

A query with one set runs as one primitive query.  Any other query runs a primitive query for each
set, far enough to cover the window that is asked for, and merges their results.

Executing a query records in it where the execution ended, so an execution works on the query
together with the state of the client.
-/

namespace EntityStore

/-- An execution changes the query that it executes. -/
abbrev Execution (σ : Type) := Action (Query × σ)

namespace Execution

variable {σ T α : Type}

/-- The query that is executed. -/
def query : Execution σ Query :=
  Action.read Prod.fst

/-- Changes the query that is executed. -/
def updateQuery (f : Query → Query) : Execution σ Unit :=
  Action.update fun (q, s) => (f q, s)

/-- An action of the client. -/
def lift (x : Action σ α) : Execution σ α :=
  Action.on .second x

/-- The sum of a limit and an offset, which stays within sixty-four bits. -/
def saturatingSum (limit offset : UInt64) : UInt64 :=
  if limit.toNat + offset.toNat < UInt64.size then limit + offset else 0xffffffffffffffff

/-- The results of every set of a query, each up to a limit. -/
def fetchSets (c : Client σ T) (queries : List PrimitiveQuery) (limit : Option UInt64) :
    Execution σ (List (List Entity)) :=
  queries.mapM fun primitive => do
    let results ← lift (c.datastore.runQuery primitive ⟨limit, 0⟩ c.options)
    return results.entities

/-- The records of a window of the results. -/
def fetchEntities (c : Client σ T) (window : Window) : Execution σ (List Entity) := do
  let q ← query
  match q.compile with
  | .single primitive =>
    let results ← lift (c.datastore.runQuery primitive window c.options)
    updateQuery (·.recordExecution results.cursor false)
    return results.entities
  | .multiple queries orders =>
    if q.cursor.isSome then Action.fail .cursorOnDisjunction
    let lists ← fetchSets c queries (window.limit.map (saturatingSum · window.offset))
    updateQuery (·.recordExecution none true)
    let rest := (Merge.merge orders lists).drop window.offset.toNat
    match window.limit with
    | some limit => return rest.take limit.toNat
    | none => return rest

/-- All results, as records. -/
def run (c : Client σ T) : Execution σ (List Entity) :=
  fetchEntities c {}

/-- A way to make an answer of a record, given the schema that the query is over. -/
abbrev Conversion (σ α : Type) := Option Schema → Entity → Action σ α

/-- Records as they are. -/
def asEntity : Conversion σ Entity := fun _ e =>
  return e

/-- Records as their keys. -/
def asKey : Conversion σ Key := fun _ e =>
  return e.key

/-- Records as instances: of the schema of the query if the kind is the same, else of the
registered kind. -/
def asModel (c : Client σ T) : Conversion σ Model := fun schema e =>
  match schema with
  | some schema =>
    if schema.kind = e.kind then do Model.fromEntity schema e (← c.moment) else c.load e
  | none => c.load e

/-- Up to `limit` results after `offset` of them; no limit is no call. -/
def fetch (c : Client σ T) (convert : Conversion σ α) (limit offset : UInt64) :
    Execution σ (List α) := do
  if limit = 0 then return []
  let es ← fetchEntities c ⟨some limit, offset⟩
  let q ← query
  es.mapM fun e => lift (convert q.schema e)

/-- The number of results, up to a limit.  Counting forgets where the last execution ended. -/
def count (c : Client σ T) (limit : Option UInt64) : Execution σ Nat := do
  let q ← query
  let n ← match q.compile with
    | .single primitive => lift (c.datastore.count primitive limit c.options)
    | .multiple .. => List.length <$> fetchEntities c ⟨limit, 0⟩
  updateQuery (·.forgetExecution)
  return n

/-- The first result. -/
def first (c : Client σ T) (convert : Conversion σ α) : Execution σ (Option α) := do
  return (← fetch c convert 1 0).getLast?

/-- The number of results up to a position, which has no name of its own at the last position that
sixty-four bits can name. -/
def resultsUpTo (index : UInt64) : Execution σ UInt64 :=
  if index.toNat + 1 < UInt64.size then pure (index + 1) else Action.overflow

/-- The result at a position. -/
def nth (c : Client σ T) (convert : Conversion σ α) (index : UInt64) : Execution σ α := do
  match (← fetch c convert 1 index).getLast? with
  | some a => return a
  | none => Action.fail (.fewerResults (← resultsUpTo index))

/-- An end of a range of positions. -/
inductive Bound where
  | included (position : UInt64)
  | excluded (position : UInt64)
  | unbounded
deriving DecidableEq

/-- The first position of a range. -/
def Bound.start : Bound → UInt64
  | .included i => i
  | .excluded i => saturatingSum i 1
  | .unbounded => 0

/-- The position after a range, if it has an end. -/
def Bound.stop? : Bound → Option UInt64
  | .included i => some (saturatingSum i 1)
  | .excluded i => some i
  | .unbounded => none

/-- The results in a range of positions, which must have an end. -/
def slice (c : Client σ T) (convert : Conversion σ α) (lower upper : Bound) :
    Execution σ (List α) := do
  match upper.stop? with
  | none => Action.fail .openSlice
  | some stop =>
    if stop ≤ lower.start then return []
    else fetch c convert (stop - lower.start) lower.start

end Execution

end EntityStore
