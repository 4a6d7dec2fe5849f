import EntityStore.Calendar.Reader
import EntityStore.Key.Token

/-!
# Values as JSON

Inside a token a value is an object whose one member names its type; null is the bare name.
Decoding makes no checks beyond the types of the parts.
-/

namespace EntityStore

/-- A finite double is a number; the others have no number and become null. -/
def Binary64.toJson (x : Binary64) : Json :=
  if x.isNaN || x.isInfinite then .null else .number (.ofBinary64 x)

namespace User

/-- A user as an object; an id that is not there is null. -/
def toJson (u : User) : Json :=
  Json.ofMembers
    [("email", Json.ofString u.email), ("auth_domain", Json.ofString u.authDomain),
      ("user_id", (u.userId.map Json.ofString).getD .null)]

/-- Reads a user. -/
def ofJson? (depth : Nat) (document : Json) : Option User :=
  match Json.fields? ["email", "auth_domain", "user_id"] depth document with
  | some (_, [some email, some authDomain, userId]) => do
    let email ← email.string?
    let authDomain ← authDomain.string?
    let userId ← Json.optional? Json.string? userId
    return ⟨email, authDomain, userId⟩
  | _ => none

end User

namespace GeoPoint

/-- A point as an object. -/
def toJson (p : GeoPoint) : Json :=
  Json.ofMembers [("lat", p.latitude.toJson), ("lon", p.longitude.toJson)]

/-- Reads a point, without checking its range. -/
def ofJson? (depth : Nat) (document : Json) : Option GeoPoint :=
  match Json.fields? ["lat", "lon"] depth document with
  | some (_, [some latitude, some longitude]) => do
    let latitude ← latitude.binary64?
    let longitude ← longitude.binary64?
    return ⟨latitude, longitude⟩
  | _ => none

end GeoPoint

namespace Handle

/-- A handle as an object. -/
def toJson (h : Handle) : Json :=
  Json.ofMembers [("protocol", Json.ofString h.protocol), ("address", Json.ofString h.address)]

/-- Reads a handle, without checking its parts. -/
def ofJson? (depth : Nat) (document : Json) : Option Handle :=
  match Json.fields? ["protocol", "address"] depth document with
  | some (_, [some protocol, some address]) => do
    let protocol ← protocol.string?
    let address ← address.string?
    return ⟨protocol, address⟩
  | _ => none

end Handle

namespace Value

/-- Bytes as an array of numbers. -/
def bytesToJson (bytes : List UInt8) : Json :=
  .array (bytes.map fun b => .number (.ofInt b.toNat))

mutual

/-- The document of a value. -/
def toJson : Value → Json
  | .null => Json.ofString "Null"
  | .boolean b => tag "Boolean" (.boolean b)
  | .integer i => tag "Integer" (.number (.ofInt i.toInt))
  | .float x => tag "Float" x.toJson
  | .string s => tag "String" (Json.ofString s)
  | .text s => tag "Text" (Json.ofString s)
  | .byteString b => tag "ByteString" (bytesToJson b)
  | .blob b => tag "Blob" (bytesToJson b)
  | .dateTime d => tag "DateTime" (Json.ofString d.text)
  | .date d => tag "Date" (Json.ofString d.text)
  | .time t => tag "Time" (Json.ofString t.text)
  | .key k => tag "Key" k.toJson
  | .user u => tag "User" u.toJson
  | .category s => tag "Category" (Json.ofString s)
  | .link s => tag "Link" (Json.ofString s)
  | .email s => tag "Email" (Json.ofString s)
  | .geoPoint p => tag "GeoPt" p.toJson
  | .handle h => tag "Im" h.toJson
  | .phoneNumber s => tag "PhoneNumber" (Json.ofString s)
  | .postalAddress s => tag "PostalAddress" (Json.ofString s)
  | .rating i => tag "Rating" (.number (.ofInt i.toInt))
  | .list items => tag "List" (.array (itemsToJson items))
where
  /-- An object with one member. -/
  tag (name : String) (contents : Json) : Json :=
    Json.ofMembers [(name, contents)]

/-- The documents of the items of a list. -/
def itemsToJson : List Value → List Json
  | [] => []
  | v :: rest => toJson v :: itemsToJson rest

end

/-- Reads the contents of every type but lists. -/
def ofContents? (type : ValueType) (depth : Nat) (contents : Json) : Option Value :=
  match type with
  | .null => match contents with
    | .null => some .null
    | _ => none
  | .boolean => contents.boolean?.map .boolean
  | .integer => contents.int64?.map .integer
  | .float => contents.binary64?.map .float
  | .string => contents.string?.map .string
  | .text => contents.string?.map .text
  | .byteString => (Json.items? (fun _ => Json.byte?) depth contents).map .byteString
  | .blob => (Json.items? (fun _ => Json.byte?) depth contents).map .blob
  | .dateTime => (contents.string?.bind Calendar.dateTime?).map .dateTime
  | .date => (contents.string?.bind Calendar.date?).map .date
  | .time => (contents.string?.bind Calendar.time?).map .time
  | .key => (Key.ofJson? depth contents).map .key
  | .user => (User.ofJson? depth contents).map .user
  | .category => contents.string?.map .category
  | .link => contents.string?.map .link
  | .email => contents.string?.map .email
  | .geoPoint => (GeoPoint.ofJson? depth contents).map .geoPoint
  | .handle => (Handle.ofJson? depth contents).map .handle
  | .phoneNumber => contents.string?.map .phoneNumber
  | .postalAddress => contents.string?.map .postalAddress
  | .rating => contents.int64?.map .rating
  | .list => none

/-- Reads a value that is nested at most `depth` deep. -/
def ofJson? : Nat → Json → Option Value
  | 0, document => if (Json.string? document) = some "Null" then some .null else none
  | depth + 1, .object [(body, contents)] =>
    match (Json.textOfBody? body).bind ValueType.named? with
    | none => none
    | some .list =>
      match depth, contents with
      | depth + 1, .array items => (items.mapM (ofJson? depth)).map .list
      | _, _ => none
    | some type => ofContents? type depth contents
  | _ + 1, document => if (Json.string? document) = some "Null" then some .null else none

end Value

end EntityStore
