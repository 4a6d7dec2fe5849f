import EntityStore.Query.FilterText
import EntityStore.Query.Primitive
import EntityStore.Schema.Basic

/-!
# Queries

A query ranges over the instances of one schema, or over all kinds.  Its conditions form a
disjunction of query sets, each a conjunction of clauses.  A plain filter adds its clause to every
set.  The store cannot test membership or inequality by itself, so these multiply the sets: one
copy of every set for each listed value, or one copy below and one above the value.

Executing a query records where it ended, so that a later query can resume there.
-/

namespace EntityStore

/-- A query under construction, with the trace of its last execution. -/
structure Query where
  schema : Option Schema
  sets : List (List Clause) := [[]]
  orders : List SortOrder := []
  ancestor : Option Key := none
  keysOnly : Bool := false
  /-- Whether executions record where they ended. -/
  recordsCursor : Bool := true
  /-- Whether the sets were multiplied. -/
  isDisjunctive : Bool := false
  maxSets : Nat := 30
  /-- Where the next execution begins. -/
  cursor : Option Cursor := none
  /-- Where the last recorded execution ended. -/
  lastCursor : Option Cursor := none
  /-- Whether the last recorded execution ran several primitive queries. -/
  lastWasMultiple : Bool := false

/-- The primitive queries that a query stands for. -/
inductive CompiledQuery where
  | single (query : PrimitiveQuery)
  /-- Any other number of them, their results to be merged by the orders. -/
  | multiple (queries : List PrimitiveQuery) (orders : List SortOrder)

namespace CompiledQuery

/-- The primitive queries in their order. -/
def queries : CompiledQuery → List PrimitiveQuery
  | .single query => [query]
  | .multiple queries _ => queries

/-- Whether results have to be merged. -/
def isMultiple : CompiledQuery → Bool
  | .single _ => false
  | .multiple .. => true

end CompiledQuery

namespace Query

/-- A query over the instances of a schema. -/
def ofSchema (schema : Schema) : Query :=
  { schema := some schema }

/-- A query over all kinds. -/
def kindless : Query :=
  { schema := none }

/-- The kind that the query is about. -/
def kind? (q : Query) : Option String :=
  q.schema.map (·.kind)

/-- Asks for keys instead of instances. -/
def askKeysOnly (q : Query) : Except Failure Query :=
  if q.isDisjunctive then throw .keysOnlyDisjunctive else return { q with keysOnly := true }

/-- Has executions record where they end, or not, from now on. -/
def recording (q : Query) (records : Bool) : Query :=
  { q with recordsCursor := records }

/-- The name under which the store knows a property: the name of the key stands for itself, a
declared property is found by its attribute or else by its storage name, and an expando kind takes
every other name as it is. -/
def resolveProperty (q : Query) (name : String) : Except Failure String :=
  if name = Key.propertyName then return name
  else
    match q.schema with
    | none => throw .kindlessFilter
    | some schema =>
      match (schema.property? name).or (schema.propertyByStorageName? name) with
      | some p => if p.isIndexed then return p.storageName else throw (.propertyNotIndexed name)
      | none => if schema.isExpando then return name else throw (.invalidPropertyName name)

/-- Refuses operands that no key can be compared with. -/
def checkKeyOperands (property : String) (operands : List Value) : Except Failure Unit :=
  if property = Key.propertyName then
    match operands.find? fun v => v.key?.isNone with
    | some other => throw (.keyOperand other.type)
    | none => return
  else return

/-- The copies of every set with one more clause: for each operator, each set and each value. -/
def multiplySets (sets : List (List Clause)) (property : String) (operators : List Operator)
    (values : List Value) : List (List Clause) :=
  operators.flatMap fun operator =>
    sets.flatMap fun set =>
      values.map fun value => set ++ [⟨property, operator, value⟩]

/-- Multiplies the sets by the alternatives of some operators and values. -/
def disjoin (q : Query) (property : String) (operators : List Operator) (values : List Value) :
    Except Failure Query :=
  if operators.any (!·.isPrimitive) then throw .compositeOperator
  else
    let needed := q.sets.length * operators.length * values.length
    if q.maxSets < needed then throw (.tooManyQuerySets needed q.maxSets)
    else return { q with
      sets := multiplySets q.sets property operators values
      isDisjunctive := true }

/-- Adds a clause to every set. -/
def conjoin (q : Query) (clause : Clause) : Query :=
  { q with sets := q.sets.map (· ++ [clause]) }

/-- Adds a filter on a resolved property. -/
def filterResolved (q : Query) (property : String) (operator : Operator) (operand : Value) :
    Except Failure Query :=
  match operator, operand with
  | .isIn, operand => do
    if q.keysOnly then throw .keysOnlyIn
    match operand with
    | .list values =>
      let values := values.map Value.widen
      checkKeyOperands property values
      q.disjoin property [.equal] values
    | _ => throw .inNeedsList
  | _, .list _ => throw .listOperand
  | .notEqual, operand => do
    if q.keysOnly then throw .keysOnlyNotEqual
    let value := operand.widen
    checkKeyOperands property [value]
    q.disjoin property [.lessThan, .greaterThan] [value]
  | operator, operand => do
    let value := operand.widen
    checkKeyOperands property [value]
    return q.conjoin ⟨property, operator, value⟩

/-- Adds a filter, given as a filter text and an operand. -/
def filter (q : Query) (text : String) (operand : Value) : Except Failure Query := do
  let (name, operator) ← FilterText.parse text
  let property ← q.resolveProperty name
  q.filterResolved property operator operand

/-- Adds the disjunction of comparing a property by any of the operators with any of the
values. -/
def filterDisjunction (q : Query) (name : String) (operators : List Operator)
    (values : List Value) : Except Failure Query := do
  let property ← q.resolveProperty name
  let values := values.map Value.widen
  checkKeyOperands property values
  q.disjoin property operators values

/-- Splits the sign off an order: a hyphen in front asks for descending order. -/
def parseOrder (text : String) : String × Direction :=
  match text.toList with
  | '-' :: rest => (String.ofList rest, .descending)
  | _ => (text, .ascending)

/-- Adds an order. -/
def order (q : Query) (text : String) : Except Failure Query := do
  let (name, direction) := parseOrder text
  if q.schema.isNone ∧ (name ≠ Key.propertyName ∨ direction ≠ .ascending) then throw .kindlessOrder
  let property ← q.resolveProperty name
  return { q with orders := q.orders ++ [⟨property, direction⟩] }

/-- Restricts the results to a key and everything below it. -/
def under (q : Query) (ancestor : Key) : Except Failure Query :=
  if ancestor.hasIdentifier then return { q with ancestor := some ancestor }
  else throw (.ancestorWithoutIdentifier ancestor)

/-- Resumes after the place that a token stands for; the empty token begins at the start. -/
def resume (q : Query) (token : String) : Except Failure Query := do
  if token.isEmpty then return { q with cursor := none }
  else return { q with cursor := some (← Cursor.decode token) }

/-- The primitive query of one set. -/
def primitive (q : Query) (set : List Clause) : PrimitiveQuery :=
  { kind := q.kind?
    filters := set
    orders := q.orders
    ancestor := q.ancestor
    keysOnly := q.keysOnly
    cursor := q.cursor }

/-- The primitive queries of all sets. -/
def compile (q : Query) : CompiledQuery :=
  match q.sets with
  | [set] => .single (q.primitive set)
  | sets => .multiple (sets.map q.primitive) q.orders

/-- Takes note of an execution, if the query records them. -/
def recordExecution (q : Query) (cursor : Option Cursor) (multiple : Bool) : Query :=
  if q.recordsCursor then { q with lastCursor := cursor, lastWasMultiple := multiple } else q

/-- Forgets the last execution. -/
def forgetExecution (q : Query) : Query :=
  { q with lastCursor := none, lastWasMultiple := false }

/-- The token of the place where the last execution ended. -/
def token (q : Query) : Except Failure String :=
  if !q.recordsCursor then throw .cursorNotRecorded
  else if q.lastWasMultiple then throw .cursorOnDisjunction
  else
    match q.lastCursor with
    | some cursor => return cursor.encode
    | none => throw .noCursor

end Query

end EntityStore
