import EntityStore.Model.Dynamic

/-!
# References

A reference property holds the key of another instance.  Assigning the instance itself checks its
kind and remembers it.
-/

namespace EntityStore.Model

/-- A reference property by its attribute. -/
def referenceProperty (m : Model) (name : String) : Except Failure (Property × Reference) :=
  match m.schema.property? name with
  | none => throw (.noProperty m.kind name)
  | some p =>
    match p.reference? with
    | some r => return (p, r)
    | none => throw (.notAReferenceProperty name m.kind)

/-- Refuses an instance of a kind that a reference may not lead to. -/
def checkTarget (name : String) (r : Reference) (target : Model) : Except Failure Unit :=
  match r.targetKind? with
  | some kind =>
    if target.schema.isSubkindOf kind then return else throw (.referenceOfOtherKind name kind)
  | none => return

/-- Points a reference property at an instance. -/
def setReference (m : Model) (name : String) (target : Model) : Except Failure Model := do
  let (p, r) ← m.referenceProperty name
  if !target.hasKey then throw (.referenceIncomplete r.label)
  checkTarget name r target
  let key ← target.key
  let m ← m.assign p (.key key)
  return m.remember name target

/-- The key that a reference property holds. -/
def referenceKey (m : Model) (name : String) : Except Failure (Option Key) := do
  let (p, _) ← m.referenceProperty name
  return (m.value p.attributeName).key?

end EntityStore.Model
