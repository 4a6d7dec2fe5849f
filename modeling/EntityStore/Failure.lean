import EntityStore.Value.Display

/-!
# Failures

Every operation that can go wrong fails with the cause.  A cause belongs to one category, which
says who is at fault and whether trying again may help, and has one text.  The texts of all causes
stand in this file.
-/

namespace EntityStore

/-- What sort of mistake or mishap a failure is. -/
inductive Category where
  /-- A property is declared twice, inherited twice, or clashes with a reverse collection. -/
  | duplicateProperty
  /-- A property has a name that instances need for themselves. -/
  | reservedWord
  /-- No schema stands for a kind, or a record has the wrong kind. -/
  | kind
  /-- A kind is registered twice. -/
  | duplicateKind
  /-- A schema, property or client is set up wrongly. -/
  | configuration
  /-- A value is refused. -/
  | validation
  /-- An unsaved instance was used where a saved one is needed. -/
  | notSaved
  /-- A key is malformed or does not fit. -/
  | badKey
  /-- Arguments are invalid or contradict each other. -/
  | badArgument
  /-- A filter text or operand is malformed. -/
  | badFilter
  /-- A query combines what cannot be combined. -/
  | badQuery
  /-- A property does not exist or cannot be used so. -/
  | property
  /-- A position past the last result. -/
  | indexOutOfRange
  /-- A reference leads nowhere. -/
  | entityNotFound
  /-- A transaction kept colliding with other writers. -/
  | transactionFailed
  /-- A call took longer than its deadline. -/
  | timeout
  /-- The store refuses a request that it cannot serve. -/
  | badRequest
  /-- The store lacks an index for a query. -/
  | needIndex
  /-- Something that should not happen. -/
  | internal
  /-- A text or record could not be decoded. -/
  | serialization
deriving DecidableEq

namespace Category

/-- The words that open the message of a failure of this category. -/
def label : Category → String
  | .duplicateProperty => "Duplicate property error"
  | .reservedWord => "Reserved word error"
  | .kind => "Kind error"
  | .duplicateKind => "Duplicate kind error"
  | .configuration => "Configuration error"
  | .validation => "Validation error"
  | .notSaved => "Not saved error"
  | .badKey => "Bad key error"
  | .badArgument => "Bad argument error"
  | .badFilter => "Bad filter error"
  | .badQuery => "Bad query error"
  | .property => "Property error"
  | .indexOutOfRange => "Index out of range"
  | .entityNotFound => "Entity not found"
  | .transactionFailed => "Transaction failed"
  | .timeout => "Timeout"
  | .badRequest => "Bad request"
  | .needIndex => "Need index"
  | .internal => "Internal error"
  | .serialization => "Serialization error"

/-- Whether the same call may succeed when it is made again. -/
def isRetryable : Category → Bool
  | .transactionFailed | .timeout => true
  | _ => false

/-- Whether the failure arises while a schema is defined. -/
def isDefinitional : Category → Bool
  | .duplicateProperty | .reservedWord | .kind | .duplicateKind | .configuration => true
  | _ => false

end Category

/-- The cause of a failure. -/
inductive Failure where
  /-- A failure reported by a caller, a validator or another store, in its own words. -/
  | reported (category : Category) (detail : String)
  -- values
  | emptyEmail
  | latitudeOutOfRange (latitude : Binary64)
  | longitudeOutOfRange (longitude : Binary64)
  | notACoordinatePair (text : String)
  | coordinatesNotNumbers (text : String)
  | unknownProtocol (protocol : String)
  | emptyAddress
  | notAHandle (text : String)
  | integerTooWide (value : Int)
  -- keys
  | emptyKeyName
  | idNotPositive (id : Int64)
  | emptyKeyKind
  | incompleteParent (parent : Key)
  | undecodableKey (text : String)
  | malformedKeyPath (text : String)
  -- properties
  | alreadyBound (attr : String) (kind : String)
  | unacceptableItemType (type : ValueType)
  | fixedOption (option : String) (expected : Bool)
  | userDefault (attr : String)
  | required (property : String)
  | notAChoice (property : String) (value : Value) (choices : List Value)
  | wrongType (property : String) (expected : String) (actual : ValueType)
  | notAString (property : String) (actual : ValueType)
  | notAnInteger (property : String) (actual : ValueType)
  | notConvertible (property : String) (target : String) (actual : ValueType)
  | timestampForDate (property : String)
  | notAReference (property : String) (label : String) (actual : ValueType)
  | referenceIncomplete (label : String)
  | notAList (property : String)
  | itemNotInteger (property : String)
  | itemOfWrongType (property : String) (type : ValueType)
  | notMultiLine (property : String)
  | tooLong (property : String) (length : Nat) (limit : Nat)
  | notAFullUrl (property : String) (link : String)
  | ratingOutOfRange (property : String) (rating : Int64)
  -- schemas
  | emptySchemaKind
  | specialName
  | reservedName (name : String)
  | inheritedTwice (attr : String) (first second : String)
  | declaredTwice (attr : String)
  | storageNameTwice (storage : String) (kind : String)
  | kindRegistered (kind : String)
  | collectionClash (kind : String) (collection : String)
  | unknownKind (kind : String)
  -- instances
  | abstractKind (kind : String)
  | noProperty (kind : String) (name : String)
  | noKeyYet (kind : String)
  | parentIncomplete (kind : String)
  | keyWithoutIdentifier
  | keyOfOtherKind (expected actual : String)
  | keyAgainstName
  | keyAgainstParent
  | recordOfOtherKind (kind : String) (actual : String)
  | notASubkind (kind : String) (base : String)
  | noDynamicProperties (kind : String)
  | underscoredName (name : String)
  | emptyDynamicList (name : String)
  | dynamicCalendarType (name : String) (type : ValueType)
  | dynamicItemType (name : String) (type : ValueType)
  | deleteDeclared (name : String)
  | notAReferenceProperty (name : String) (kind : String)
  | referenceOfOtherKind (name : String) (kind : String)
  | unresolvedReference (name : String) (key : Key)
  | noCollection (kind : String) (collection : String)
  -- queries
  | unparsedFilter (text : String)
  | unsupportedOperator (token : String)
  | kindlessFilter
  | kindlessOrder
  | propertyNotIndexed (name : String)
  | invalidPropertyName (name : String)
  | keysOnlyIn
  | keysOnlyNotEqual
  | keysOnlyDisjunctive
  | inNeedsList
  | listOperand
  | keyOperand (actual : ValueType)
  | compositeOperator
  | tooManyQuerySets (needed : Nat) (limit : Nat)
  | ancestorWithoutIdentifier (key : Key)
  | cursorOnDisjunction
  | cursorNotRecorded
  | noCursor
  | undecodableCursor (token : String)
  | fewerResults (count : UInt64)
  | openSlice
  -- stores
  | cannotAllocate (count : Nat)
  | allocateNothing
  | idLeavesNoRoom (id : Int64)
  | crossGroup (key : Key) (group : Key)
  | queryWithoutAncestor
  | nestedTransaction
  | transactionCollided
  | deadlineExceeded (milliseconds : Nat)
  | noKeyReturned
  | keyCount (keys : Nat) (entities : Nat)
  | transactionResult
  -- clients and texts
  | invalidConfiguration (detail : String)
  | invalidJson
  | invalidBase64

namespace Failure

/-- The category a cause belongs to. -/
def category : Failure → Category
  | .reported category _ => category
  | .emptyEmail | .latitudeOutOfRange _ | .longitudeOutOfRange _ | .notACoordinatePair _
  | .coordinatesNotNumbers _ | .unknownProtocol _ | .emptyAddress | .notAHandle _
  | .integerTooWide _ | .required _ | .notAChoice .. | .wrongType .. | .notAString ..
  | .notAnInteger .. | .notConvertible .. | .timestampForDate _ | .notAReference ..
  | .referenceIncomplete _ | .notAList _ | .itemNotInteger _ | .itemOfWrongType ..
  | .notMultiLine _ | .tooLong .. | .notAFullUrl .. | .ratingOutOfRange .. | .parentIncomplete _
  | .emptyDynamicList _ | .dynamicCalendarType .. | .dynamicItemType .. | .inNeedsList
  | .listOperand | .undecodableCursor _ => .validation
  | .emptyKeyName | .idNotPositive _ | .emptyKeyKind | .incompleteParent _ | .undecodableKey _
  | .malformedKeyPath _ | .keyWithoutIdentifier | .keyOfOtherKind .. => .badKey
  | .alreadyBound .. | .unacceptableItemType _ | .fixedOption .. | .userDefault _
  | .emptySchemaKind | .abstractKind _ | .invalidConfiguration _ => .configuration
  | .specialName | .reservedName _ => .reservedWord
  | .inheritedTwice .. | .declaredTwice _ | .storageNameTwice .. | .collectionClash .. =>
    .duplicateProperty
  | .kindRegistered _ => .duplicateKind
  | .unknownKind _ | .recordOfOtherKind .. | .notASubkind .. | .referenceOfOtherKind .. => .kind
  | .noProperty .. | .noDynamicProperties _ | .underscoredName _ | .deleteDeclared _
  | .notAReferenceProperty .. | .noCollection .. | .propertyNotIndexed _
  | .invalidPropertyName _ => .property
  | .noKeyYet _ | .ancestorWithoutIdentifier _ => .notSaved
  | .keyAgainstName | .keyAgainstParent | .openSlice | .cannotAllocate _ | .allocateNothing
  | .idLeavesNoRoom _ => .badArgument
  | .unresolvedReference .. => .entityNotFound
  | .unparsedFilter _ | .unsupportedOperator _ | .keyOperand _ => .badFilter
  | .kindlessFilter | .kindlessOrder | .keysOnlyIn | .keysOnlyNotEqual | .keysOnlyDisjunctive
  | .compositeOperator | .tooManyQuerySets .. | .cursorOnDisjunction | .cursorNotRecorded
  | .noCursor => .badQuery
  | .fewerResults _ => .indexOutOfRange
  | .crossGroup .. | .queryWithoutAncestor | .nestedTransaction => .badRequest
  | .transactionCollided => .transactionFailed
  | .deadlineExceeded _ => .timeout
  | .noKeyReturned | .keyCount .. | .transactionResult => .internal
  | .invalidJson | .invalidBase64 => .serialization

/-- The text of a cause, without its category. -/
def detail : Failure → String
  | .reported _ detail => detail
  | .emptyEmail => "User email cannot be empty"
  | .latitudeOutOfRange x => s!"Latitude must be between -90 and 90; received {x.display}"
  | .longitudeOutOfRange x => s!"Longitude must be between -180 and 180; received {x.display}"
  | .notACoordinatePair text => s!"Expected a 'lat,lon' pair, got '{text}'"
  | .coordinatesNotNumbers text => s!"Expected floats for lat and lon, got '{text}'"
  | .unknownProtocol protocol =>
    s!"Protocol must be a URL or one of sip, unknown, xmpp; received {protocol}"
  | .emptyAddress => "IM address cannot be empty"
  | .notAHandle text => s!"Expected a 'protocol address' pair, got '{text}'"
  | .integerTooWide value => s!"Integer {value} must fit in 64 bits"
  | .emptyKeyName => "Name cannot be empty."
  | .idNotPositive id => s!"Id must be a positive integer, got {id.toInt}"
  | .emptyKeyKind => "Kind cannot be empty."
  | .incompleteParent parent => s!"Parent key {parent.display} must be complete."
  | .undecodableKey text => s!"Invalid string key {text}: not an encoded key"
  | .malformedKeyPath text => s!"Invalid string key {text}: malformed path"
  | .alreadyBound attr kind => s!"Property {attr} is already bound to {kind}"
  | .unacceptableItemType type => s!"Item type {type.name} is not acceptable"
  | .fixedOption option expected => s!"{option} must be {expected}."
  | .userDefault attr =>
    s!"User property {attr} does not accept a default; use auto_now_add"
  | .required property => s!"Property {property} is required"
  | .notAChoice property value choices =>
    let listed := ", ".intercalate (choices.map Value.display)
    s!"Property {property} is {value.display}; must be one of [{listed}]"
  | .wrongType property expected actual =>
    s!"Property {property} must be a {expected}, not a {actual.name}"
  | .notAString property actual =>
    s!"Property {property} must be a str or unicode instance, not a {actual.name}"
  | .notAnInteger property actual =>
    s!"Property {property} must be an int or long, not a {actual.name}"
  | .notConvertible property target actual =>
    s!"Property {property} must be convertible to a {target} instance ({actual.name})"
  | .timestampForDate property => s!"Property {property} must be a date, not a datetime"
  | .notAReference property label actual =>
    s!"Property {property} must be a Key or a {label} instance, not a {actual.name}"
  | .referenceIncomplete label =>
    s!"{label} instance must have a complete key before it can be stored as a reference"
  | .notAList property => s!"Property {property} must be a list"
  | .itemNotInteger property => s!"Items in the {property} list must all be integers."
  | .itemOfWrongType property type =>
    s!"Items in the {property} list must all be {type.name} instances"
  | .notMultiLine property => s!"Property {property} is not multi-line"
  | .tooLong property length limit =>
    s!"Property {property} is {length} bytes long; it must be {limit} or less. " ++
      "Consider Text instead, which can store strings of any length."
  | .notAFullUrl property link => s!"Property {property} must be a full URL ('{link}')"
  | .ratingOutOfRange property rating =>
    s!"Property {property}: rating must be between 0 and 100, got {rating.toInt}"
  | .emptySchemaKind => "Kind name cannot be empty"
  | .specialName =>
    "Cannot define property.  All names both beginning and ending with '__' are reserved."
  | .reservedName name =>
    s!"Cannot define property using reserved word '{name}'. If you would like to use this " ++
      s!"name in the datastore consider using a different name like {name}_ and adding " ++
      s!"name='{name}' to the parameter list of the property definition."
  | .inheritedTwice attr first second =>
    s!"Duplicate property, {attr}, is inherited from both {first} and {second}."
  | .declaredTwice attr => s!"Duplicate property: {attr}"
  | .storageNameTwice storage kind => s!"Duplicate storage name {storage} on kind {kind}"
  | .kindRegistered kind => s!"Kind '{kind}' is already registered"
  | .collectionClash kind collection => s!"Class {kind} already has property {collection}"
  | .unknownKind kind => s!"No implementation for kind '{kind}'"
  | .abstractKind kind => s!"Kind {kind} is abstract and cannot be instantiated"
  | .noProperty kind name => s!"{kind} has no property {name}"
  | .noKeyYet kind => s!"{kind} instance has no key until it is saved"
  | .parentIncomplete kind =>
    s!"{kind} instance must have a complete key before it can be used as a parent."
  | .keyWithoutIdentifier => "Key must have an id or name"
  | .keyOfOtherKind expected actual => s!"Expected Key kind to be {expected}; received {actual}"
  | .keyAgainstName => "Cannot use key and key_name at the same time with different values"
  | .keyAgainstParent => "Cannot use key and parent at the same time with different values"
  | .recordOfOtherKind kind actual => s!"Class {kind} cannot handle kind '{actual}'"
  | .notASubkind kind base => s!"Kind '{kind}' is not a subclass of kind '{base}'"
  | .noDynamicProperties kind => s!"{kind} does not accept dynamic properties"
  | .underscoredName name => s!"Dynamic property names cannot start with '_': {name}"
  | .emptyDynamicList name => s!"Cannot store empty list to dynamic property {name}"
  | .dynamicCalendarType name type =>
    s!"Dynamic property {name} cannot hold a {type.name}; use a DateTime"
  | .dynamicItemType name type => s!"Items of dynamic property {name} cannot be {type.name}"
  | .deleteDeclared name => s!"Cannot delete declared property {name}"
  | .notAReferenceProperty name kind => s!"{name} is not a reference property of {kind}"
  | .referenceOfOtherKind name kind => s!"Property {name} must be an instance of {kind}"
  | .unresolvedReference name key =>
    s!"Reference property {name} failed to be resolved: {key.display}"
  | .noCollection kind collection => s!"{kind} has no collection {collection}"
  | .unparsedFilter text => s!"Could not parse filter string: {text}"
  | .unsupportedOperator token => s!"Filter operator '{token}' is not supported"
  | .kindlessFilter => "Only __key__ filters are allowed on kindless queries."
  | .kindlessOrder => "Only __key__ ascending orders are supported on kindless queries"
  | .propertyNotIndexed name => s!"Property '{name}' is not indexed"
  | .invalidPropertyName name => s!"Invalid property name '{name}'"
  | .keysOnlyIn => "Keys only queries do not support IN filters."
  | .keysOnlyNotEqual => "Keys only queries do not support != filters."
  | .keysOnlyDisjunctive => "Keys only queries do not support IN or != filters."
  | .inNeedsList => "Argument to the \"in\" operator must be a list"
  | .listOperand => "Filtering on lists is not supported"
  | .keyOperand actual => s!"__key__ filter value must be a Key, not a {actual.name}"
  | .compositeOperator => "Cannot use \"in\" or \"!=\" in a disjunction."
  | .tooManyQuerySets needed limit =>
    s!"Query requires {needed} sub-queries; at most {limit} are allowed"
  | .ancestorWithoutIdentifier key => s!"Ancestor {key.display} has no id or name"
  | .cursorOnDisjunction => "Cursors are not supported for queries with disjunctive filters"
  | .cursorNotRecorded => "Query must be compiled to produce cursors"
  | .noCursor => "No cursor available."
  | .undecodableCursor token => s!"Invalid cursor {token}. Details: not an encoded cursor"
  | .fewerResults count => s!"The query returned fewer than {count.toNat} results"
  | .openSlice => "Open-ended slices are not supported"
  | .cannotAllocate count => s!"Cannot allocate {count} ids"
  | .allocateNothing => "Number of ids to allocate must be positive"
  | .idLeavesNoRoom id => s!"Id {id.toInt} leaves no room for allocation"
  | .crossGroup key group =>
    s!"Cross-group transaction: {key.display} is outside entity group {group.display}"
  | .queryWithoutAncestor => "Only ancestor queries are allowed inside transactions."
  | .nestedTransaction => "Nested transactions are not supported."
  | .transactionCollided => "The transaction could not be committed. Please try again."
  | .deadlineExceeded milliseconds =>
    s!"Datastore call exceeded its deadline of {milliseconds}ms"
  | .noKeyReturned => "Datastore returned no key for a written entity"
  | .keyCount keys entities => s!"Datastore returned {keys} keys for {entities} entities"
  | .transactionResult => "Transaction produced an unexpected result type"
  | .invalidConfiguration detail => detail
  | .invalidJson => "not a JSON document"
  | .invalidBase64 => "not base64"

/-- The whole message: the category, then the text of the cause. -/
def message (f : Failure) : String :=
  f.category.label ++ ": " ++ f.detail

/-- Two steps in a row answer only if both of them do. -/
theorem exists_of_bind_eq_ok {α β : Type} {x : Except Failure α} {f : α → Except Failure β} {b : β}
    (answered : x >>= f = .ok b) : ∃ a, x = .ok a ∧ f a = .ok b := by
  cases x with
  | error cause => contradiction
  | ok a => exact ⟨a, rfl, answered⟩

end Failure

end EntityStore
