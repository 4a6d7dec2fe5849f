import EntityStore.Entity
import EntityStore.Value.Document

/-!
# Cursors

A cursor marks a place in an ordered result: before everything, or right after one position.
Resuming there passes over all records at or before the position, so a cursor keeps its meaning
while records come and go.  A token is the base64 of the cursor as JSON.
-/

namespace EntityStore

namespace Position

/-- A position as an object; a value that is not there is null. -/
def toJson (p : Position) : Json :=
  Json.ofMembers
    [("values", .array (p.values.map fun v => (v.map Value.toJson).getD .null)),
      ("key", p.key.toJson)]

/-- Reads a position. -/
def ofJson? (depth : Nat) (document : Json) : Option Position :=
  match Json.fields? ["values", "key"] depth document with
  | some (depth, [some values, some key]) => do
    let values ← Json.items? (fun depth v => Json.optional? (Value.ofJson? depth) (some v))
      depth values
    let key ← Key.ofJson? depth key
    return ⟨values, key⟩
  | _ => none

end Position

/-- A place to resume from; without a position it is the start. -/
structure Cursor where
  position : Option Position

namespace Cursor

/-- Before the first result. -/
def start : Cursor :=
  ⟨none⟩

/-- Right after a record. -/
def after (e : Entity) (orders : List SortOrder) : Cursor :=
  ⟨some (e.position orders)⟩

/-- Whether the cursor stands before the first result. -/
def isStart (c : Cursor) : Bool :=
  c.position.isNone

/-- Whether a record comes after the cursor. -/
def precedes (c : Cursor) (e : Entity) (orders : List SortOrder) : Bool :=
  match c.position with
  | none => true
  | some p => (e.position orders).order p orders == .gt

/-- A cursor as an object; the start has null for its position. -/
def toJson (c : Cursor) : Json :=
  Json.ofMembers [("position", (c.position.map Position.toJson).getD .null)]

/-- Reads a cursor; one without a position is the start. -/
def ofJson? (depth : Nat) (document : Json) : Option Cursor :=
  match Json.fields? ["position"] depth document with
  | some (depth, [position]) => (Json.optional? (Position.ofJson? depth) position).map Cursor.mk
  | _ => none

/-- The token of a cursor. -/
def encode (c : Cursor) : String :=
  String.ofList (Base64.encode c.toJson.write)

/-- The cursor that the bytes of a token hold. -/
def ofBytes? (bytes : List UInt8) : Option Cursor :=
  (Json.read? bytes).bind (ofJson? Json.depthLimit)

/-- Reads a token; white space around it is passed over. -/
def decode (token : String) : Except Failure Cursor :=
  match (Base64.decode (Text.trimChars token.toList)).bind ofBytes? with
  | some cursor => return cursor
  | none => throw (.undecodableCursor token)

end Cursor

end EntityStore
