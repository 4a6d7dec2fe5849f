import EntityStore.Failure

/-!
# Building keys

Keys are built downwards from a complete parent.  The kind and the identifier are checked, so a
built key can only be open at its last element.
-/

namespace EntityStore.Key

/-- A key whose last identifier is left to the store. -/
def incomplete (parent : Option Key) (kind : String) : Except Failure Key := do
  if kind.isEmpty then throw .emptyKeyKind
  match parent with
  | none => return ⟨[⟨kind, none⟩]⟩
  | some parent =>
    if parent.isComplete then return ⟨parent.path ++ [⟨kind, none⟩]⟩
    else throw (.incompleteParent parent)

/-- Whether an identifier may be chosen by the application. -/
def checkIdentifier : Identifier → Except Failure Unit
  | .name text => if text.isEmpty then throw .emptyKeyName else return
  | .number id => if id ≤ 0 then throw (.idNotPositive id) else return

/-- A complete key. -/
def build (parent : Option Key) (kind : String) (id : Identifier) : Except Failure Key := do
  checkIdentifier id
  let key ← incomplete parent kind
  return ⟨key.path.dropLast ++ [⟨kind, some id⟩]⟩

end EntityStore.Key
