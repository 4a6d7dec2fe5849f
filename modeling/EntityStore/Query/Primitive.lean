import EntityStore.Query.Cursor
import EntityStore.Query.Operator

/-!
# Primitive queries

What a store can execute: the records of a kind under an ancestor that satisfy every clause and
have a value for every order, sorted, from a cursor on.  The clauses compare one property with one
operand.
-/

namespace EntityStore

/-- One comparison of a property with an operand. -/
structure Clause where
  /-- The storage name of the property, or the name of the key. -/
  property : String
  operator : Operator
  operand : Value

namespace Clause

/-- Whether a record satisfies a clause; a record without an indexed value satisfies none. -/
def accepts (c : Clause) (e : Entity) : Bool :=
  match e.indexedValue c.property with
  | some stored => c.operator.holds stored c.operand
  | none => false

/-- The text that messages show for a clause. -/
def display (c : Clause) : String :=
  c.property ++ " " ++ c.operator.symbol ++ " " ++ c.operand.display

end Clause

/-- A query that a store executes by itself. -/
structure PrimitiveQuery where
  kind : Option String := none
  filters : List Clause := []
  orders : List SortOrder := []
  ancestor : Option Key := none
  keysOnly : Bool := false
  cursor : Option Cursor := none

namespace PrimitiveQuery

/-- Whether a record is a result, wherever the query resumes. -/
def accepts (q : PrimitiveQuery) (e : Entity) : Bool :=
  q.kind.all (· = e.kind) && q.ancestor.all (·.isAncestorOf e.key) &&
    q.filters.all (·.accepts e) && q.orders.all fun o => (e.indexedValue o.property).isSome

/-- Whether a record comes after the place where the query resumes. -/
def reaches (q : PrimitiveQuery) (e : Entity) : Bool :=
  q.cursor.all (·.precedes e q.orders)

/-- Sorts records by the orders of the query. -/
def sort (q : PrimitiveQuery) (records : List Entity) : List Entity :=
  records.mergeSort fun a b => a.order b q.orders != .gt

/-- The results of a query among some records. -/
def select (q : PrimitiveQuery) (records : List Entity) : List Entity :=
  q.sort (records.filter fun e => q.accepts e && q.reaches e)

/-- The form in which a result is handed out: a query for keys leaves the fields out. -/
def project (q : PrimitiveQuery) (e : Entity) : Entity :=
  if q.keysOnly then { key := e.key } else e

end PrimitiveQuery

/-- Which part of the results is wanted. -/
structure Window where
  limit : Option UInt64 := none
  offset : UInt64 := 0
deriving DecidableEq

/-- The results of a primitive query, with the place after the last one. -/
structure QueryResults where
  entities : List Entity
  cursor : Option Cursor

namespace PrimitiveQuery

/-- The position in the results at which a window ends. -/
def windowEnd (window : Window) (count : Nat) : Nat :=
  let start := min window.offset.toNat count
  match window.limit with
  | some limit => min (start + limit.toNat) count
  | none => count

/-- Executes a query on some records.  The cursor stands after the last record that the window
passed, or where the query began when it passed none. -/
def run (q : PrimitiveQuery) (records : List Entity) (window : Window) : QueryResults :=
  let found := q.select records
  let stop := windowEnd window found.length
  let cursor := match found[stop - 1]? with
    | some last => if 0 < stop then Cursor.after last q.orders else q.cursor.getD .start
    | none => q.cursor.getD .start
  { entities := ((found.take stop).drop window.offset.toNat).map q.project
    cursor := some cursor }

/-- How many records a query finds, up to a limit. -/
def count (q : PrimitiveQuery) (records : List Entity) (limit : Option UInt64) : Nat :=
  let total := (q.select records).length
  match limit with
  | some limit => min total limit.toNat
  | none => total

end PrimitiveQuery

end EntityStore
