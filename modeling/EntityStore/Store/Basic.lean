import EntityStore.Store.Interface

/-!
# The memory store

Records are kept in the order of their keys.  Every entity group, the records under one root, has
a version that grows with each write to the group.  Ids are handed out upwards from one, and an id
chosen by a caller moves the next one past it.
-/

namespace EntityStore

theorem Store.keyed_empty (key : Key) (e : Entity)
    (stored : (∅ : Std.ExtTreeMap Key Entity)[key]? = some e) : e.key = key :=
  absurd (Std.ExtTreeMap.getElem?_empty.symm.trans stored) (Option.some_ne_none e).symm

/-- The state of the memory store. -/
structure Store where
  records : Std.ExtTreeMap Key Entity := ∅
  versions : Std.ExtTreeMap Key Nat := ∅
  nextId : Int64 := 1
  /-- Every record is stored under its own key. -/
  keyed : ∀ key (e : Entity), records[key]? = some e → e.key = key := by
    exact Store.keyed_empty

namespace Store

/-- The largest id. -/
def maxId : Int :=
  Int64.maxValue.toInt

/-- The version of an entity group, counted from zero. -/
def version (s : Store) (group : Key) : Nat :=
  s.versions[group]?.getD 0

/-- Moves a group to its next version. -/
def bump (s : Store) (group : Key) : Store :=
  { s with versions := s.versions.insert group (s.version group + 1) }

/-- The records in the order of their keys. -/
def entities (s : Store) : List Entity :=
  s.records.toList.map Prod.snd

/-- How many records there are. -/
def size (s : Store) : Nat :=
  s.records.size

/-- Reserves ids and answers the first and the last of them. -/
def allocate (count : Nat) : Action Store (Int64 × Int64) := do
  if maxId < count then Action.fail (.cannotAllocate count)
  if count < 1 then Action.fail .allocateNothing
  let first ← Action.read (·.nextId)
  if maxId < first.toInt + count then Action.fail (.cannotAllocate count)
  Action.update fun s => { s with nextId := Int64.ofInt (first.toInt + count) }
  return (first, Int64.ofInt (first.toInt + (count - 1 : Nat)))

/-- Gives an open key an id, and keeps the id of another key from being handed out. -/
def complete (key : Key) : Action Store Key :=
  match key.id? with
  | none => do
    let (id, _) ← allocate 1
    return key.withNumber id
  | some (.number id) => do
    if maxId < id.toInt + 1 then Action.fail (.idLeavesNoRoom id)
    Action.update fun s => { s with nextId := max s.nextId (Int64.ofInt (id.toInt + 1)) }
    return key
  | some (.name _) => return key

/-- Stores a record under a key, which becomes its own, or removes the record of the key. -/
def replace (s : Store) (key : Key) : Option Entity → Store
  | some e => { s with
    records := s.records.insert key { e with key }
    keyed := by
      intro key' e' found
      rw [Std.ExtTreeMap.getElem?_insert] at found
      split at found
      · rename_i equal
        cases found
        exact Std.LawfulEqOrd.eq_of_compare equal
      · exact s.keyed key' e' found }
  | none => { s with
    records := s.records.erase key
    keyed := by
      intro key' e' found
      rw [Std.ExtTreeMap.getElem?_erase] at found
      split at found
      · contradiction
      · exact s.keyed key' e' found }

/-- Writes or removes the record of a key. -/
def write (s : Store) (key : Key) (e : Option Entity) : Store :=
  (s.replace key e).bump key.root

/-- Completes the key of one record and writes it. -/
def putOne (e : Entity) : Action Store Key := do
  let key ← complete e.key
  Action.update fun s => s.write key (some e)
  return key

/-- Writes records one after the other. -/
def put (es : List Entity) : Action Store (List Key) :=
  es.mapM putOne

/-- Removes the records of some keys. -/
def delete (s : Store) (keys : List Key) : Store :=
  keys.foldl (fun s key => s.write key none) s

/-- The records of some keys. -/
def get (s : Store) (keys : List Key) : List (Option Entity) :=
  keys.map fun key => s.records[key]?

/-- The results of a primitive query over all records. -/
def runQuery (s : Store) (q : PrimitiveQuery) (window : Window) : QueryResults :=
  q.run s.entities window

/-- How many results a primitive query has, up to a limit. -/
def count (s : Store) (q : PrimitiveQuery) (limit : Option UInt64) : Nat :=
  q.count s.entities limit

/-- The calls of the memory store, each of which gets hold of the store after `wait` milliseconds
and then ends at once. -/
def storage (wait : Nat := 0) : Storage Store where
  get keys options := Action.within options.deadline (Action.read fun s => s.get keys) wait
  put es options := Action.within options.deadline (put es) wait
  delete keys options := Action.within options.deadline (Action.update fun s => s.delete keys) wait
  allocateIds _ count options := Action.within options.deadline (allocate count) wait
  runQuery q window options :=
    Action.within options.deadline (Action.read fun s => s.runQuery q window) wait
  count q limit options :=
    Action.within options.deadline (Action.read fun s => s.count q limit) wait

end Store

end EntityStore
