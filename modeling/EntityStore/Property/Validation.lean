import EntityStore.Property.Basic
import EntityStore.Value.Make
import EntityStore.Value.Order

/-!
# Validation

Validation turns a value into one of the property's type or says why it cannot: it coerces, then
consults the choices and the caller's own check, and last checks the constraints of the type.  An
empty value passes unchanged unless the property is required.
-/

namespace EntityStore

/-- How many bytes an indexed text or byte string may have. -/
def maxIndexedBytes : Nat :=
  500

/-- Whether an item has the type that a list property asks for.  Lists of strings take every short
text, lists of integers take ratings. -/
def ValueType.admitsItem (item : ValueType) (v : Value) : Bool :=
  match item with
  | .string => v.text?.isSome && v.type != .text
  | .integer => v.integer?.isSome
  | type => v.type == type

namespace Property

/-- Whether a value counts as missing: null, and for all but lists an empty text or no bytes. -/
def isEmptyValue (p : Property) (v : Value) : Bool :=
  if p.kind.isList then v.isNull
  else
    match v.text?, v.bytes? with
    | some s, _ => s.isEmpty
    | none, some b => b.isEmpty
    | none, none => v.isNull

/-- Turns any text into one of the given type. -/
def coerceText (name target : String) (wrap : String → Value) (v : Value) : Except Failure Value :=
  match v.text? with
  | some s => return wrap s
  | none => throw (.notConvertible name target v.type)

/-- Turns any bytes into bytes of the given type. -/
def coerceBytes (name target : String) (wrap : List UInt8 → Value) (v : Value) :
    Except Failure Value :=
  match v.bytes? with
  | some b => return wrap b
  | none => throw (.notConvertible name target v.type)

/-- Accepts a value of one type only. -/
def exactly (type : ValueType) (failure : Failure) (v : Value) : Except Failure Value :=
  if v.type = type then return v else throw failure

/-- The failure of a list with an item of the wrong type. -/
def itemFailure (name : String) : ValueType → Failure
  | .integer => .itemNotInteger name
  | type => .itemOfWrongType name type

/-- Checks the items of a list. -/
def checkItems (name : String) (item : ValueType) (items : List Value) :
    Except Failure (List Value) :=
  if items.all item.admitsItem then return items else throw (itemFailure name item)

/-- Turns a value into one of a kind's type; `name` is what messages call the property. -/
def coerceTo (name : String) (kind : PropertyKind) (v : Value) : Except Failure Value :=
  match kind with
  | .string _ =>
    match v.text? with
    | some s => return .string s
    | none => throw (.notAString name v.type)
  | .text => coerceText name "Text" .text v
  | .category => coerceText name "Category" .category v
  | .link => coerceText name "Link" .link v
  | .email => coerceText name "Email" .email v
  | .phoneNumber => coerceText name "PhoneNumber" .phoneNumber v
  | .postalAddress => coerceText name "PostalAddress" .postalAddress v
  | .blob => coerceBytes name "Blob" .blob v
  | .byteString => coerceBytes name "ByteString" .byteString v
  | .integer =>
    match v.integer? with
    | some i => return .integer i
    | none => throw (.notAnInteger name v.type)
  | .rating =>
    match v.integer? with
    | some i => return .rating i
    | none => throw (.notConvertible name "Rating" v.type)
  | .float => exactly .float (.wrongType name "float" v.type) v
  | .boolean => exactly .boolean (.wrongType name "bool" v.type) v
  | .user _ => exactly .user (.wrongType name "User" v.type) v
  | .dateTime _ => exactly .dateTime (.wrongType name "DateTime" v.type) v
  | .date _ =>
    if v.type = .dateTime then throw (.timestampForDate name)
    else exactly .date (.wrongType name "Date" v.type) v
  | .time _ => exactly .time (.wrongType name "Time" v.type) v
  | .geoPoint =>
    match v with
    | .geoPoint _ => return v
    | _ =>
      match v.text? with
      | some s => (GeoPoint.parse s).map .geoPoint
      | none => throw (.notConvertible name "GeoPt" v.type)
  | .handle =>
    match v with
    | .handle _ => return v
    | _ =>
      match v.text? with
      | some s => (Handle.parse s).map .handle
      | none => throw (.notConvertible name "IM" v.type)
  | .list item =>
    match v with
    | .list items => (checkItems name item items).map .list
    | _ => throw (.notAList name)
  | .reference r =>
    match v with
    | .key k => if k.hasIdentifier then return v else throw (.referenceIncomplete r.label)
    | _ => throw (.notAReference name r.label v.type)

/-- Checks the length of an indexed text or byte string. -/
def checkLength (name : String) (length : Nat) : Except Failure Unit :=
  if maxIndexedBytes < length then throw (.tooLong name length maxIndexedBytes) else return

/-- Checks what a kind asks of the values of its type. -/
def checkConstraints (name : String) (kind : PropertyKind) (v : Value) : Except Failure Unit :=
  match kind, v with
  | .string multiline, .string s =>
    if !multiline && s.toList.contains '\n' then throw (.notMultiLine name)
    else checkLength name s.utf8ByteSize
  | .byteString, .byteString b => checkLength name b.length
  | .link, .link s => if Url.isFull s then return else throw (.notAFullUrl name s)
  | .rating, .rating i =>
    if 0 ≤ i ∧ i ≤ 100 then return else throw (.ratingOutOfRange name i)
  | _, _ => return

/-- Checks that a value is one of the choices, if there are any. -/
def checkChoices (p : Property) (v : Value) : Except Failure Unit :=
  match p.choices with
  | some choices =>
    if choices.any fun choice => choice.agrees v then return
    else throw (.notAChoice p.storageName v choices)
  | none => return

/-- Consults the caller's own check, if there is one. -/
def runValidator (p : Property) (v : Value) : Except Failure Unit :=
  match p.validator with
  | some validator => validator v
  | none => return

/-- Validates a value and answers it in the property's type. -/
def validate (p : Property) (v : Value) : Except Failure Value :=
  if p.isEmptyValue v then
    if p.isRequired then throw (.required p.storageName) else return v
  else do
    let v ← coerceTo p.storageName p.kind v
    p.checkChoices v
    p.runValidator v
    checkConstraints p.storageName p.kind v
    return v

end Property

end EntityStore
