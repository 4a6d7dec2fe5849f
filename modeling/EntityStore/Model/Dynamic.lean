import EntityStore.Model.Basic

/-!
# Dynamic properties

Instances of an expando kind may carry properties that no schema declares.  Assigning a declared
name goes through its property, and assigning null removes a dynamic one.
-/

namespace EntityStore

mutual

/-- Refuses the values that no dynamic property may hold: dates and times of day, which only a
declared property can restore, and lists inside lists. -/
def Value.checkDynamic (name : String) : Value → Except Failure Unit
  | .date _ => throw (.dynamicCalendarType name .date)
  | .time _ => throw (.dynamicCalendarType name .time)
  | .list items => Value.checkDynamicItems name items
  | _ => return

/-- Refuses the items that no dynamic list may hold. -/
def Value.checkDynamicItems (name : String) : List Value → Except Failure Unit
  | [] => return
  | item :: rest => do
    if item.type = .list ∨ item.type = .null then throw (.dynamicItemType name item.type)
    Value.checkDynamic name item
    Value.checkDynamicItems name rest

end

mutual

/-- Whether a dynamic value is too long for an index: it is or contains a text or a blob. -/
def Value.isLong : Value → Bool
  | .text _ | .blob _ => true
  | .list items => Value.anyLong items
  | _ => false

/-- Whether one of several values is too long for an index. -/
def Value.anyLong : List Value → Bool
  | [] => false
  | v :: rest => Value.isLong v || Value.anyLong rest

end

namespace Model

/-- Refuses an instance whose schema admits no dynamic properties. -/
def requireExpando (m : Model) : Except Failure Unit :=
  if m.schema.isExpando then return else throw (.noDynamicProperties m.kind)

/-- Assigns a name that no schema declares. -/
def setUndeclared (m : Model) (name : String) (v : Value) : Except Failure Model := do
  Schema.checkName name
  if name.toList.head? = some '_' then throw (.underscoredName name)
  match v with
  | .null => return { m with dynamic := m.dynamic.erase name }
  | .list [] => throw (.emptyDynamicList name)
  | v =>
    v.checkDynamic name
    return { m with dynamic := m.dynamic.insert name v }

/-- Assigns a declared property and forgets where it led. -/
def setDeclared (m : Model) (name : String) (p : Property) (v : Value) : Except Failure Model := do
  let m ← m.assign p v
  return m.forget name

/-- Assigns a dynamic property, or a declared one of that name. -/
def setDynamic (m : Model) (name : String) (v : Value) : Except Failure Model := do
  m.requireExpando
  match m.schema.property? name with
  | some p => m.setDeclared name p v
  | none => m.setUndeclared name v

/-- Assigns a declared property, or a dynamic one if the kind allows it. -/
def set (m : Model) (name : String) (v : Value) : Except Failure Model :=
  match m.schema.property? name with
  | some p => m.setDeclared name p v
  | none => if m.schema.isExpando then m.setDynamic name v else throw (.noProperty m.kind name)

/-- The dynamic value of a name. -/
def getDynamic? (m : Model) (name : String) : Option Value :=
  m.dynamic[name]?

/-- Removes a dynamic property. -/
def deleteDynamic (m : Model) (name : String) : Except Failure Model := do
  m.requireExpando
  if (m.schema.property? name).isSome then throw (.deleteDeclared name)
  if m.dynamic.contains name then return { m with dynamic := m.dynamic.erase name }
  else throw (.noProperty m.kind name)

/-- The names of the dynamic properties, in order. -/
def dynamicNames (m : Model) : List String :=
  m.dynamic.keys

/-- The names of the declared properties and then of the dynamic ones. -/
def allNames (m : Model) : List String :=
  m.schema.properties.map (·.attributeName) ++ m.dynamicNames

end Model

end EntityStore
