import EntityStore.Store.Basic

/-!
# Transactions of the memory store

A transaction works on one entity group.  The first key it touches pins the group and its version.
Writes are buffered, and reads see them; queries must have an ancestor and see the store.  The
transaction commits if the version of the group is still the pinned one, and is run again
otherwise, a bounded number of times.
-/

namespace EntityStore

/-- What an open transaction remembers. -/
structure Transaction where
  /-- The pinned group. -/
  group : Option Key := none
  /-- The version of the group when it was pinned. -/
  version : Nat := 0
  /-- The buffered writes; nothing stands for a deletion. -/
  writes : Std.ExtTreeMap Key (Option Entity) := ∅

namespace Transaction

/-- A transaction and the store it works on. -/
abbrev OnStore := Transaction × Store

/-- Pins the group of a key, or makes sure that it is the pinned one. -/
def enterGroup (key : Key) : Action OnStore Unit := do
  let (t, s) ← Action.read id
  match t.group with
  | none =>
    Action.update fun (t, s') =>
      ({ t with group := some key.root, version := s.version key.root }, s')
  | some group => if group = key.root then return else Action.fail (.crossGroup key group)

/-- Buffers a write. -/
def buffer (t : Transaction) (key : Key) (e : Option Entity) : Transaction :=
  { t with writes := t.writes.insert key e }

/-- The record of a key as the transaction sees it. -/
def lookup (t : Transaction) (s : Store) (key : Key) : Option Entity :=
  match t.writes[key]? with
  | some buffered => buffered
  | none => s.records[key]?

/-- Reads one record of the group. -/
def getOne (key : Key) : Action OnStore (Option Entity) := do
  enterGroup key
  Action.read fun (t, s) => t.lookup s key

/-- Buffers the write of a key of the group. -/
def writeOne (key : Key) (e : Option Entity) : Action OnStore Unit := do
  enterGroup key
  Action.update fun (t, s) => (t.buffer key e, s)

/-- Completes a key and buffers the write of the record. -/
def putOne (e : Entity) : Action OnStore Key := do
  let key ← Action.on .second (Store.complete e.key)
  writeOne key (some { e with key })
  return key

/-- Buffers the removal of a record. -/
def deleteOne (key : Key) : Action OnStore Unit :=
  writeOne key none

/-- Pins the group of a query by its ancestor. -/
def enterQuery (q : PrimitiveQuery) : Action OnStore Unit :=
  match q.ancestor with
  | some ancestor => enterGroup ancestor
  | none => Action.fail .queryWithoutAncestor

/-- The calls as the body of a transaction sees them. -/
def storage : Storage OnStore where
  get keys _ := keys.mapM getOne
  put es _ := es.mapM putOne
  delete keys _ := keys.forM deleteOne
  allocateIds _ count _ := Action.on .second (Store.allocate count)
  runQuery q window _ := do
    enterQuery q
    Action.read fun (_, s) => s.runQuery q window
  count q limit _ := do
    enterQuery q
    Action.read fun (_, s) => s.count q limit

/-- The store after the buffered writes. -/
def applyWrites (t : Transaction) (s : Store) : Store :=
  t.writes.foldl Store.replace s

/-- Commits: whether the pinned version still stands, and the store after the writes if so. -/
def commit (t : Transaction) (s : Store) : Bool × Store :=
  match t.group with
  | none => (true, s)
  | some group =>
    if s.version group = t.version then
      let s := t.applyWrites s
      (true, if t.writes.isEmpty then s else s.bump group)
    else (false, s)

variable {σ α : Type}

/-- The transaction and the store inside a larger state. -/
def partOf (part : Part σ Store) : Part (Transaction × σ) OnStore :=
  ⟨fun (t, s) => (t, part.get s), fun (t, store) (_, s) => (t, part.set store s)⟩

/-- Runs the body once and commits; answers nothing when the commit collided. -/
def runOnce (part : Part σ Store) (body : Action (Transaction × σ) α) : Action σ (Option α) :=
  Action.ofFunction fun s =>
    match body.runOn ({}, s) with
    | (.error e, (_, s)) => (.error e, s)
    | (.ok a, (t, s)) =>
      let (committed, store) := t.commit (part.get s)
      (.ok (if committed then some a else none), part.set store s)

/-- Runs the body until it commits, at most `retries` times more than once. -/
def run (part : Part σ Store) (body : Action (Transaction × σ) α) : Nat → Action σ α
  | 0 => do
    match ← runOnce part body with
    | some a => return a
    | none => Action.fail .transactionCollided
  | retries + 1 => do
    match ← runOnce part body with
    | some a => return a
    | none => run part body retries

end Transaction

/-- The calls of a store that works on a part of the state. -/
def Storage.on {σ τ : Type} (part : Part σ τ) (storage : Storage τ) : Storage σ where
  get keys options := Action.on part (storage.get keys options)
  put es options := Action.on part (storage.put es options)
  delete keys options := Action.on part (storage.delete keys options)
  allocateIds key count options := Action.on part (storage.allocateIds key count options)
  runQuery q window options := Action.on part (storage.runQuery q window options)
  count q limit options := Action.on part (storage.count q limit options)

/-- The memory store as a store that works on a part of a state.  Its calls outside of transactions
wait for the store. -/
def Store.datastore {σ : Type} (part : Part σ Store) (retries : Nat) (wait : Nat := 0) :
    Datastore σ Transaction :=
  { (Store.storage wait).on part with
    runInTransaction := fun body options =>
      let view := Transaction.storage.on (Transaction.partOf part)
      Action.within options.deadline (some <$> Transaction.run part (body view) retries) }

end EntityStore
