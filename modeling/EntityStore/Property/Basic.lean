import EntityStore.Failure
import EntityStore.Text.Lowercase

/-!
# Property descriptors

A property describes one field of a schema: the kind of its values, its name on instances and in
records, and its options.  It is bound once, to the schema that declares it; only then does it have
an attribute name.
-/

namespace EntityStore

/-- When a property fills itself: on every write, or only when an instance is created. -/
structure Automatic where
  onWrite : Bool := false
  onCreate : Bool := false
deriving DecidableEq

/-- What a reference property may lead to. -/
inductive ReferenceTarget where
  | kind (kind : String)
  /-- The declaring schema; binding turns it into its kind. -/
  | own
  | any
deriving DecidableEq

/-- A reference property's target and the name of the collection that it creates there. -/
structure Reference where
  target : ReferenceTarget
  collection : Option String := none
deriving DecidableEq

namespace Reference

/-- Settles an own target and a default collection name for the declaring kind. -/
def bind (r : Reference) (kind : String) : Reference :=
  { target := if r.target = .own then .kind kind else r.target
    collection := some (r.collection.getD (Text.lowercase kind ++ "_set")) }

/-- The kind that a settled reference leads to, unless it may lead to any. -/
def targetKind? (r : Reference) : Option String :=
  match r.target with
  | .kind kind => some kind
  | _ => none

/-- What messages call the target. -/
def label (r : Reference) : String :=
  r.targetKind?.getD "Model"

end Reference

/-- The kind of a property's values with the options that only this kind has. -/
inductive PropertyKind where
  | string (multiline : Bool)
  | text
  | blob
  | byteString
  | integer
  | float
  | boolean
  | dateTime (automatic : Automatic)
  | date (automatic : Automatic)
  | time (automatic : Automatic)
  | user (automatic : Automatic)
  | category
  | link
  | email
  | geoPoint
  | handle
  | phoneNumber
  | postalAddress
  | rating
  | list (item : ValueType)
  | reference (reference : Reference)
deriving DecidableEq

namespace PropertyKind

/-- The type of the values of an instance. -/
def dataType : PropertyKind → ValueType
  | .string _ => .string
  | .text => .text
  | .blob => .blob
  | .byteString => .byteString
  | .integer => .integer
  | .float => .float
  | .boolean => .boolean
  | .dateTime _ => .dateTime
  | .date _ => .date
  | .time _ => .time
  | .user _ => .user
  | .category => .category
  | .link => .link
  | .email => .email
  | .geoPoint => .geoPoint
  | .handle => .handle
  | .phoneNumber => .phoneNumber
  | .postalAddress => .postalAddress
  | .rating => .rating
  | .list _ => .list
  | .reference _ => .key

/-- Whether values of this kind are too long for an index. -/
def isLong : PropertyKind → Bool
  | .text | .blob => true
  | .list .text | .list .blob => true
  | _ => false

/-- Whether values of this kind are lists. -/
def isList : PropertyKind → Bool
  | .list _ => true
  | _ => false

/-- The automatic options of the kinds that have them. -/
def automatic? : PropertyKind → Option Automatic
  | .dateTime a | .date a | .time a | .user a => some a
  | _ => none

/-- Replaces the automatic options of the kinds that have them. -/
def withAutomatic (change : Automatic → Automatic) : PropertyKind → PropertyKind
  | .dateTime a => .dateTime (change a)
  | .date a => .date (change a)
  | .time a => .time (change a)
  | .user a => .user (change a)
  | k => k

end PropertyKind

/-- A caller's own check; it accepts a value or says why not. -/
abbrev Validator := Value → Except Failure Unit

/-- Where a property was declared. -/
structure Binding where
  kind : String
  attr : String
deriving DecidableEq

/-- A property. -/
structure Property where
  kind : PropertyKind
  binding : Option Binding := none
  /-- The name in records, when it is not the attribute name. -/
  storage : Option String := none
  verbose : Option String := none
  default : Option Value := none
  required : Option Bool := none
  indexed : Option Bool := none
  validator : Option Validator := none
  choices : Option (List Value) := none

namespace Property

/-- The type of the property's values. -/
def dataType (p : Property) : ValueType :=
  p.kind.dataType

/-- The name on instances. -/
def attributeName (p : Property) : String :=
  (p.binding.map (·.attr)).getD ""

/-- The name in records. -/
def storageName (p : Property) : String :=
  p.storage.getD p.attributeName

/-- The name shown to people. -/
def verboseName (p : Property) : String :=
  p.verbose.getD p.attributeName

/-- The kind of the declaring schema. -/
def ownerKind? (p : Property) : Option String :=
  p.binding.map (·.kind)

/-- Whether a value must be present; lists always are. -/
def isRequired (p : Property) : Bool :=
  p.kind.isList || p.required.getD false

/-- Whether filters and orders see the property; long values are never indexed. -/
def isIndexed (p : Property) : Bool :=
  !p.kind.isLong && p.indexed.getD true

/-- The reference that the property declares. -/
def reference? (p : Property) : Option Reference :=
  match p.kind with
  | .reference r => some r
  | _ => none

/-- Permits line ends in a string property. -/
def multiline (p : Property) : Property :=
  match p.kind with
  | .string _ => { p with kind := .string true }
  | _ => p

/-- Names the collection of a reference property. -/
def withCollection (p : Property) (collection : String) : Property :=
  match p.kind with
  | .reference r => { p with kind := .reference { r with collection := some collection } }
  | _ => p

/-- Fills the property anew on every write. -/
def filledOnWrite (p : Property) : Property :=
  { p with kind := p.kind.withAutomatic fun a => { a with onWrite := true } }

/-- Fills the property when an instance is created. -/
def filledOnCreate (p : Property) : Property :=
  { p with kind := p.kind.withAutomatic fun a => { a with onCreate := true } }

/-- Refuses an option that is set to anything but its only value. -/
def checkOption (option : String) (actual : Option Bool) (expected : Bool) : Except Failure Unit :=
  match actual with
  | some actual => if actual = expected then return else throw (.fixedOption option expected)
  | none => return

/-- Checks the options that not every kind of property may have. -/
def checkOptions (p : Property) (attr : String) : Except Failure Unit :=
  match p.kind with
  | .text | .blob => checkOption "indexed" p.indexed false
  | .list item => do
    if item = .list ∨ item = .null then throw (.unacceptableItemType item)
    if item = .text ∨ item = .blob then checkOption "indexed" p.indexed false
    checkOption "required" p.required true
  | .user _ => if p.default.isSome then throw (.userDefault attr) else return
  | _ => return

/-- Binds a property to its schema and attribute, which is done only once. -/
def bind (p : Property) (kind attr : String) : Except Failure Property := do
  match p.binding with
  | some b => throw (.alreadyBound attr b.kind)
  | none =>
    p.checkOptions attr
    let bound := match p.kind with
      | .reference r => .reference (r.bind kind)
      | k => k
    return { p with
      kind := bound
      binding := some ⟨kind, attr⟩
      storage := some (p.storage.getD attr) }

end Property

end EntityStore
