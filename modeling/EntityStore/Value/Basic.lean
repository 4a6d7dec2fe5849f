import EntityStore.Binary64.Basic
import EntityStore.Calendar.DateTime
import EntityStore.Key.Basic

/-!
# Values

The closed set of types that a property may hold.  The same type serves instances in memory and
stored records; plain dates and times of day only occur in memory and are widened to timestamps
before they are stored.
-/

namespace EntityStore

/-- Identity of a user. -/
structure User where
  email : String
  authDomain : String
  userId : Option String
deriving DecidableEq

namespace User

instance : Ord User :=
  ⟨compareLex (compareOn email) (compareLex (compareOn authDomain) (compareOn userId))⟩

instance : Std.TransOrd User :=
  inferInstanceAs
    (Std.TransCmp
      (compareLex (compareOn email) (compareLex (compareOn authDomain) (compareOn userId))))

instance : Std.LawfulEqOrd User where
  eq_of_compare {a b} h := by
    have h' : compareLex (compareOn email)
        (compareLex (compareOn authDomain) (compareOn userId)) a b = .eq := h
    simp only [compareLex_eq_eq, compareOn, Std.LawfulEqOrd.compare_eq_iff_eq] at h'
    obtain ⟨e, d, u⟩ := a
    obtain ⟨e', d', u'⟩ := b
    simp_all

end User

/-- A point on the globe, in degrees. -/
structure GeoPoint where
  latitude : Binary64
  longitude : Binary64
deriving DecidableEq

namespace GeoPoint

instance : Ord GeoPoint :=
  ⟨compareLex (compareOn latitude) (compareOn longitude)⟩

instance : Std.TransOrd GeoPoint :=
  inferInstanceAs (Std.TransCmp (compareLex (compareOn latitude) (compareOn longitude)))

instance : Std.LawfulEqOrd GeoPoint where
  eq_of_compare {a b} h := by
    have h' : compareLex (compareOn latitude) (compareOn longitude) a b = .eq := h
    simp only [compareLex_eq_eq, compareOn, Std.LawfulEqOrd.compare_eq_iff_eq] at h'
    obtain ⟨x, y⟩ := a
    obtain ⟨x', y'⟩ := b
    simp_all

end GeoPoint

/-- An instant-messaging handle: a protocol and an address on it. -/
structure Handle where
  protocol : String
  address : String
deriving DecidableEq

/-- The text a handle is shown as and sorted by. -/
def Handle.text (h : Handle) : String :=
  h.protocol ++ " " ++ h.address

/-- The type of a value. -/
inductive ValueType where
  | null
  | boolean
  | integer
  | float
  | string
  | text
  | byteString
  | blob
  | dateTime
  | date
  | time
  | key
  | user
  | category
  | link
  | email
  | geoPoint
  | handle
  | phoneNumber
  | postalAddress
  | rating
  | list
deriving DecidableEq

/-- The name a type goes by in messages. -/
def ValueType.name : ValueType → String
  | .null => "Null"
  | .boolean => "Boolean"
  | .integer => "Integer"
  | .float => "Float"
  | .string => "String"
  | .text => "Text"
  | .byteString => "ByteString"
  | .blob => "Blob"
  | .dateTime => "DateTime"
  | .date => "Date"
  | .time => "Time"
  | .key => "Key"
  | .user => "User"
  | .category => "Category"
  | .link => "Link"
  | .email => "Email"
  | .geoPoint => "GeoPt"
  | .handle => "Im"
  | .phoneNumber => "PhoneNumber"
  | .postalAddress => "PostalAddress"
  | .rating => "Rating"
  | .list => "List"

/-- All types, in the order in which they are declared. -/
def ValueType.all : List ValueType :=
  [.null, .boolean, .integer, .float, .string, .text, .byteString, .blob, .dateTime, .date, .time,
    .key, .user, .category, .link, .email, .geoPoint, .handle, .phoneNumber, .postalAddress,
    .rating, .list]

/-- The type that goes by a name. -/
def ValueType.named? (name : String) : Option ValueType :=
  ValueType.all.find? fun t => t.name = name

/-- A value. -/
inductive Value where
  | null
  | boolean (value : Bool)
  | integer (value : Int64)
  | float (value : Binary64)
  /-- Short text that may be indexed. -/
  | string (value : String)
  /-- Long text that is never indexed. -/
  | text (value : String)
  /-- Short bytes that may be indexed. -/
  | byteString (value : List UInt8)
  /-- Long bytes that are never indexed. -/
  | blob (value : List UInt8)
  | dateTime (value : DateTime)
  | date (value : Date)
  | time (value : Time)
  | key (value : Key)
  | user (value : User)
  | category (value : String)
  | link (value : String)
  | email (value : String)
  | geoPoint (value : GeoPoint)
  | handle (value : Handle)
  | phoneNumber (value : String)
  | postalAddress (value : String)
  | rating (value : Int64)
  | list (items : List Value)

namespace Value

instance : Inhabited Value :=
  ⟨.null⟩

/-- The type that a value is of. -/
def type : Value → ValueType
  | .null => .null
  | .boolean _ => .boolean
  | .integer _ => .integer
  | .float _ => .float
  | .string _ => .string
  | .text _ => .text
  | .byteString _ => .byteString
  | .blob _ => .blob
  | .dateTime _ => .dateTime
  | .date _ => .date
  | .time _ => .time
  | .key _ => .key
  | .user _ => .user
  | .category _ => .category
  | .link _ => .link
  | .email _ => .email
  | .geoPoint _ => .geoPoint
  | .handle _ => .handle
  | .phoneNumber _ => .phoneNumber
  | .postalAddress _ => .postalAddress
  | .rating _ => .rating
  | .list _ => .list

/-- Whether a value is null. -/
def isNull : Value → Bool
  | .null => true
  | _ => false

/-- The text of a value whose type is a kind of text. -/
def text? : Value → Option String
  | .string s | .text s | .category s | .link s | .email s | .phoneNumber s | .postalAddress s =>
    some s
  | _ => none

/-- The bytes of a byte string or a blob. -/
def bytes? : Value → Option (List UInt8)
  | .byteString b | .blob b => some b
  | _ => none

/-- The whole number of an integer or a rating. -/
def integer? : Value → Option Int64
  | .integer i | .rating i => some i
  | _ => none

/-- The number of a float. -/
def float? : Value → Option Binary64
  | .float x => some x
  | _ => none

/-- The truth value of a boolean. -/
def boolean? : Value → Option Bool
  | .boolean b => some b
  | _ => none

/-- The key that a value holds. -/
def key? : Value → Option Key
  | .key k => some k
  | _ => none

/-- The user that a value holds. -/
def user? : Value → Option User
  | .user u => some u
  | _ => none

/-- The point that a value holds. -/
def geoPoint? : Value → Option GeoPoint
  | .geoPoint p => some p
  | _ => none

/-- The items of a list. -/
def list? : Value → Option (List Value)
  | .list items => some items
  | _ => none

/-- The timestamp of a date, a time of day or a timestamp. -/
def dateTime? : Value → Option DateTime
  | .dateTime d => some d
  | .date d => some d.atMidnight
  | .time t => some t.onEpoch
  | _ => none

/-- The form in which a date or a time of day is stored; every other value is stored as it is. -/
def widen : Value → Value
  | .date d => .dateTime d.atMidnight
  | .time t => .dateTime t.onEpoch
  | v => v

end Value

end EntityStore
