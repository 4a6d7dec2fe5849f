import EntityStore.Value.Order
import Std.Data.ExtTreeMap
import Std.Data.ExtTreeSet

/-!
# Records

A record is a key with named values, kept in the order of their names, and the set of names that
are not indexed.  Filters and orders only see indexed values, and the key under its own name.

A sort order compares one value of each record.  A list takes part with its smallest item when the
order ascends and with its largest when it descends.  A record without a value comes first, and
records that agree on all orders are told apart by their keys.
-/

namespace EntityStore

/-- Values by name, in the order of the names. -/
abbrev Fields := Std.ExtTreeMap String Value

/-- A set of names, in order. -/
abbrev Names := Std.ExtTreeSet String

/-- A stored record. -/
structure Entity where
  key : Key
  fields : Fields := ∅
  unindexed : Names := ∅

/-- Whether an order begins with the least or with the greatest value. -/
inductive Direction where
  | ascending
  | descending
deriving DecidableEq

/-- A property to sort by and the direction. -/
structure SortOrder where
  property : String
  direction : Direction
deriving DecidableEq

namespace Entity

/-- The kind of a record is that of its key. -/
def kind (e : Entity) : String :=
  e.key.kind

/-- The value of a field. -/
def get? (e : Entity) (name : String) : Option Value :=
  e.fields[name]?

/-- Replaces or adds a field. -/
def set (e : Entity) (name : String) (value : Value) : Entity :=
  { e with fields := e.fields.insert name value }

/-- Drops a field. -/
def remove (e : Entity) (name : String) : Entity :=
  { e with fields := e.fields.erase name }

/-- Whether a record has a field. -/
def contains (e : Entity) (name : String) : Bool :=
  e.fields.contains name

/-- The names of the fields, in order. -/
def names (e : Entity) : List String :=
  e.fields.keys

/-- Whether filters and orders see a field. -/
def isIndexed (e : Entity) (name : String) : Bool :=
  !e.unindexed.contains name

/-- The value that filters and orders see under a name. -/
def indexedValue (e : Entity) (name : String) : Option Value :=
  if name = Key.propertyName then some (.key e.key)
  else if e.isIndexed name then e.get? name
  else none

/-- Whether an item takes the place of the best one so far. -/
def beats (direction : Direction) (item best : Value) : Bool :=
  match direction with
  | .ascending => item.order best == .lt
  | .descending => item.order best == .gt

/-- The item of a list that the list sorts by. -/
def bestItem (direction : Direction) : List Value → Option Value
  | [] => none
  | first :: rest =>
    some (rest.foldl (fun best item => if beats direction item best then item else best) first)

/-- The value that a record sorts by under one order. -/
def sortValue (e : Entity) (name : String) (direction : Direction) : Option Value :=
  match e.indexedValue name with
  | some (.list items) => bestItem direction items
  | other => other

/-- One value for each order, where the record has one. -/
def sortValues (e : Entity) (orders : List SortOrder) : List (Option Value) :=
  orders.map fun o => e.sortValue o.property o.direction

end Entity

/-- A missing value comes before every value. -/
def orderOptional : Option Value → Option Value → Ordering
  | some a, some b => a.order b
  | none, some _ => .lt
  | some _, none => .gt
  | none, none => .eq

/-- The order that a direction makes of an ascending one. -/
def Direction.apply : Direction → Ordering → Ordering
  | .ascending, o => o
  | .descending, o => o.swap

/-- The order of two rows of sort values. -/
def orderValues : List (Option Value) → List (Option Value) → List SortOrder → Ordering
  | a :: as, b :: bs, o :: os => (o.direction.apply (orderOptional a b)).then (orderValues as bs os)
  | _, _, _ => .eq

/-- Where a record stands among the results of a query: its sort values and its key. -/
structure Position where
  values : List (Option Value)
  key : Key

namespace Position

/-- The order of two positions: by the sort values, else by the keys. -/
def order (a b : Position) (orders : List SortOrder) : Ordering :=
  (orderValues a.values b.values orders).then (compare a.key b.key)

end Position

namespace Entity

/-- Where a record stands in an ordered result. -/
def position (e : Entity) (orders : List SortOrder) : Position :=
  ⟨e.sortValues orders, e.key⟩

/-- The order of two records. -/
def order (a b : Entity) (orders : List SortOrder) : Ordering :=
  (a.position orders).order (b.position orders) orders

end Entity

end EntityStore
