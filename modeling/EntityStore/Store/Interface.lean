import EntityStore.Action
import EntityStore.Query.Primitive
import EntityStore.Settings.Configuration

/-!
# Stores

What instances and queries need from a store: to read, write and delete records in batches, to
reserve ids, to execute primitive queries, and to run a body as a transaction.  A store works on a
state of its own choice; an open transaction adds what it remembers to that state.
-/

namespace EntityStore

/-- What is passed along with every call. -/
structure CallOptions where
  deadline : Option Nat
  readPolicy : ReadPolicy
deriving DecidableEq

/-- The options of calls under a configuration. -/
def Configuration.callOptions (c : Configuration) : CallOptions :=
  ⟨c.deadline, c.readPolicy⟩

/-- The calls that work both inside and outside transactions. -/
structure Storage (σ : Type) where
  /-- Reads records; a key without a record gives nothing in its place. -/
  get : List Key → CallOptions → Action σ (List (Option Entity))
  /-- Writes records and answers their keys, with identifiers where they were open. -/
  put : List Entity → CallOptions → Action σ (List Key)
  delete : List Key → CallOptions → Action σ Unit
  /-- Reserves ids below a key and answers the first and the last. -/
  allocateIds : Key → Nat → CallOptions → Action σ (Int64 × Int64)
  runQuery : PrimitiveQuery → Window → CallOptions → Action σ QueryResults
  count : PrimitiveQuery → Option UInt64 → CallOptions → Action σ Nat

/-- A store.  An open transaction remembers a `T`. -/
structure Datastore (σ T : Type) extends Storage σ where
  /-- Runs a body as a transaction.  The store may run the body several times, and may end without
  handing its answer back. -/
  runInTransaction : {α : Type} → (Storage (T × σ) → Action (T × σ) α) → CallOptions →
    Action σ (Option α)

/-- The store that the body of a transaction sees; it does not take another transaction. -/
def Storage.withoutTransactions {σ : Type} (storage : Storage σ) : Datastore σ Empty :=
  { storage with runInTransaction := fun _ _ => Action.fail .nestedTransaction }

end EntityStore
