import EntityStore.Base64
import EntityStore.Failure
import EntityStore.Json.Decoding
import EntityStore.Text.Blank

/-!
# Keys as tokens

A token is the base64 of the path as a JSON array, one object per element.  Decoding passes over
white space around the token and refuses paths that are empty or open before their last element.
-/

namespace EntityStore

namespace Identifier

/-- An identifier as a member named after its kind of identifier. -/
def toJson : Identifier → Json
  | .number id => Json.ofMembers [("Id", .number (.ofInt id.toInt))]
  | .name text => Json.ofMembers [("Name", Json.ofString text)]

/-- Reads an identifier. -/
def ofJson? (depth : Nat) (document : Json) : Option Identifier :=
  match Json.tagged? depth document with
  | some (_, "Id", some value) => value.int64?.map .number
  | some (_, "Name", some value) => value.string?.map .name
  | _ => none

end Identifier

namespace PathElement

/-- An element as an object; an open identifier is null. -/
def toJson (e : PathElement) : Json :=
  Json.ofMembers
    [("kind", Json.ofString e.kind), ("id", (e.id.map Identifier.toJson).getD .null)]

/-- Reads an element; an identifier that is not there is open. -/
def ofJson? (depth : Nat) (document : Json) : Option PathElement :=
  match Json.fields? ["kind", "id"] depth document with
  | some (depth, [some kind, id]) => do
    let kind ← kind.string?
    let id ← Json.optional? (Identifier.ofJson? depth) id
    return ⟨kind, id⟩
  | _ => none

end PathElement

namespace Key

/-- The path as an array. -/
def pathToJson (k : Key) : Json :=
  .array (k.path.map PathElement.toJson)

/-- Reads the elements of a path. -/
def pathOfJson? (depth : Nat) (document : Json) : Option (List PathElement) :=
  Json.items? PathElement.ofJson? depth document

/-- The key as a record of its path. -/
def toJson (k : Key) : Json :=
  Json.ofMembers [("path", k.pathToJson)]

/-- Reads a key whose path stands in an object. -/
def ofJson? (depth : Nat) (document : Json) : Option Key :=
  match Json.fields? ["path"] depth document with
  | some (depth, [some path]) => (pathOfJson? depth path).map Key.mk
  | _ => none

/-- The token of a key. -/
def encode (k : Key) : String :=
  String.ofList (Base64.encode k.pathToJson.write)

/-- Whether a path has an element and only its last identifier may be open. -/
def isWellFormedPath (path : List PathElement) : Bool :=
  !path.isEmpty && path.dropLast.all (·.id.isSome)

/-- The path that the bytes of a token hold. -/
def pathOfBytes? (bytes : List UInt8) : Option (List PathElement) :=
  (Json.read? bytes).bind (pathOfJson? Json.depthLimit)

/-- Reads a token. -/
def decode (token : String) : Except Failure Key :=
  match (Base64.decode (Text.trimChars token.toList)).bind pathOfBytes? with
  | none => throw (.undecodableKey token)
  | some path =>
    if isWellFormedPath path then return ⟨path⟩ else throw (.malformedKeyPath token)

end Key

end EntityStore
