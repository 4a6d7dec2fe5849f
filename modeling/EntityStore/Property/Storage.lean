import EntityStore.Property.Validation

/-!
# Values in records

Records hold no dates and no times of day: a date is stored as its midnight and a time of day as a
timestamp of the first of January 1970.  Reading turns them back into what the property declares.
-/

namespace EntityStore

/-- What automatic properties are filled from. -/
structure Moment where
  now : DateTime
  user : Option User := none

namespace Property

/-- The automatic value of a kind. -/
def automaticValue (kind : PropertyKind) (moment : Moment) : Value :=
  match kind with
  | .user _ => (moment.user.map Value.user).getD .null
  | .date _ => .date moment.now.date
  | .time _ => .time moment.now.time
  | _ => .dateTime moment.now

/-- The value that a new instance starts with. -/
def defaultValue (p : Property) (moment : Moment) : Value :=
  match p.kind with
  | .dateTime a | .date a | .time a =>
    if a.onWrite || a.onCreate then automaticValue p.kind moment else p.default.getD .null
  | .user a => if a.onWrite || a.onCreate then automaticValue p.kind moment else .null
  | .list _ => p.default.getD (.list [])
  | _ => p.default.getD .null

/-- The value that is written for an instance that holds `current`: a property that is filled on
every write replaces it. -/
def currentValue (p : Property) (current : Value) (moment : Moment) : Value :=
  match p.kind.automatic? with
  | some a => if a.onWrite then automaticValue p.kind moment else current
  | none => current

/-- The items of a list about to be stored; a missing list has none. -/
def itemsForStorage (p : Property) (item : ValueType) (v : Value) : Except Failure (List Value) :=
  match v with
  | .null => return []
  | .list items => checkItems p.storageName item items
  | _ => throw (.notAList p.storageName)

/-- The stored form of an instance's value. -/
def valueForStorage (p : Property) (current : Value) (moment : Moment) : Except Failure Value := do
  let v := p.currentValue current moment
  if !p.kind.isList && p.isRequired && p.isEmptyValue v then throw (.required p.storageName)
  match p.kind with
  | .date _ | .time _ => return v.widen
  | .list item =>
    let items ← p.itemsForStorage item v
    p.runValidator (.list items)
    return .list (items.map Value.widen)
  | _ => return v

/-- The declared form of a stored timestamp. -/
def narrow (type : ValueType) (v : Value) : Value :=
  match type, v with
  | .date, .dateTime d => .date d.date
  | .time, .dateTime d => .time d.time
  | _, v => v

/-- An instance's value for a stored one; a missing list is empty and a single value is a list of
one. -/
def valueFromStorage (p : Property) (stored : Value) : Value :=
  match p.kind with
  | .date _ => narrow .date stored
  | .time _ => narrow .time stored
  | .list item =>
    match stored with
    | .null => .list []
    | .list items => .list (items.map (narrow item))
    | single => .list [narrow item single]
  | _ => stored

end Property

end EntityStore
