import EntityStore.Entity
import EntityStore.Property.Basic

/-!
# Schemas

A schema is the property map of one kind: the properties of its bases first, in base order, then
its own in the order of their declaration.  Defining a schema binds its own properties and makes
sure that no attribute name and no storage name occurs twice.
-/

namespace EntityStore

/-- The definition of a kind. -/
structure Schema where
  kind : String
  properties : List Property
  /-- The attributes declared here rather than inherited. -/
  declared : List String
  /-- The storage names that are not indexed. -/
  unindexed : Names
  /-- The kinds that this one extends, nearest first. -/
  ancestry : List String
  /-- Whether instances may carry properties of their own. -/
  isExpando : Bool
  /-- Whether the schema only lends its properties. -/
  isAbstract : Bool

namespace Schema

/-- The property with a name on instances. -/
def property? (s : Schema) (attr : String) : Option Property :=
  s.properties.find? fun p => p.attributeName = attr

/-- The property with a name in records. -/
def propertyByStorageName? (s : Schema) (name : String) : Option Property :=
  s.properties.find? fun p => p.storageName = name

/-- The properties declared here, in order. -/
def declaredProperties (s : Schema) : List Property :=
  s.declared.filterMap s.property?

/-- Whether instances of the schema are instances of a kind. -/
def isSubkindOf (s : Schema) (kind : String) : Bool :=
  s.kind = kind || s.ancestry.contains kind

/-- The kind itself and the kinds it extends, nearest first. -/
def lineage (s : Schema) : List String :=
  s.kind :: s.ancestry

/-- The names that instances need for themselves. -/
def reservedNames : List String :=
  ["key_name", "key", "put", "delete", "is_saved", "has_key", "dynamic_properties",
    "instance_properties", "parent", "parent_key", "get", "get_by_key_name", "get_by_id",
    "get_or_insert", "all", "from_entity", "kind", "properties", "fields", "schema", "entity"]

/-- Whether a name both begins and ends with two underscores. -/
def isSpecialName (name : String) : Bool :=
  let cs := name.toList
  decide (4 ≤ cs.length) && ['_', '_'].isPrefixOf cs && ['_', '_'].isSuffixOf cs

/-- Refuses the names that no property may have. -/
def checkName (name : String) : Except Failure Unit :=
  if isSpecialName name then throw .specialName
  else if reservedNames.contains name then throw (.reservedName name)
  else return

end Schema

/-- What a schema is defined from. -/
structure Definition where
  kind : String
  bases : List Schema := []
  declared : List (String × Property) := []
  isExpando : Bool := false
  isAbstract : Bool := false

namespace Definition

/-- Adds one inherited property.  A name that is there already must come from the same
declaration. -/
def inheritProperty (properties : List Property) (p : Property) : Except Failure (List Property) :=
  match properties.find? fun q => q.attributeName = p.attributeName with
  | some q =>
    if q.ownerKind? = p.ownerKind? then return properties
    else throw (.inheritedTwice p.attributeName (q.ownerKind?.getD "") (p.ownerKind?.getD ""))
  | none => return properties ++ [p]

/-- The properties of all bases, in base order. -/
def inheritedProperties (bases : List Schema) : Except Failure (List Property) :=
  (bases.flatMap (·.properties)).foldlM inheritProperty []

/-- Adds a kind that is not there yet. -/
def addKind (kinds : List String) (kind : String) : List String :=
  if kinds.contains kind then kinds else kinds ++ [kind]

/-- The kinds of all bases and of what they extend. -/
def ancestry (bases : List Schema) : List String :=
  (bases.flatMap Schema.lineage).foldl addKind []

/-- Binds one declared property and adds it. -/
def declareProperty (kind : String) (properties : List Property) (declared : String × Property) :
    Except Failure (List Property) := do
  let (attr, p) := declared
  Schema.checkName attr
  if properties.any fun q => q.attributeName = attr then throw (.declaredTwice attr)
  let bound ← p.bind kind attr
  return properties ++ [bound]

/-- Refuses a storage name that occurs twice. -/
def checkStorageNames (kind : String) : List String → List Property → Except Failure Unit
  | _, [] => return
  | seen, p :: rest =>
    if seen.contains p.storageName then throw (.storageNameTwice p.storageName kind)
    else checkStorageNames kind (p.storageName :: seen) rest

/-- Puts a schema together without registering it. -/
def assemble (d : Definition) : Except Failure Schema := do
  if d.kind.isEmpty then throw .emptySchemaKind
  let inherited ← inheritedProperties d.bases
  let properties ← d.declared.foldlM (declareProperty d.kind) inherited
  checkStorageNames d.kind [] properties
  return {
    kind := d.kind
    properties := properties
    declared := d.declared.map (·.1)
    unindexed := .ofList ((properties.filter (!·.isIndexed)).map (·.storageName))
    ancestry := ancestry d.bases
    isExpando := d.isExpando || d.bases.any (·.isExpando)
    isAbstract := d.isAbstract }

end Definition

end EntityStore
