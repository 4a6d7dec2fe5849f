/-!
# Keys

A key is a path of kinds and identifiers from the root of an entity group down to one record.  The
identifier of the last element may still be open; the store then assigns a number on the first
write.

Keys are ordered along their paths.  An open identifier comes before the numbers, and the numbers
before the names, so a key comes before everything below it.
-/

namespace EntityStore

/-- What tells the records of one kind under one parent apart. -/
inductive Identifier where
  /-- A number, usually assigned by the store. -/
  | number (id : Int64)
  /-- A name chosen by the application. -/
  | name (text : String)
deriving DecidableEq

namespace Identifier

/-- The number, if the identifier is one. -/
def number? : Identifier → Option Int64
  | .number id => some id
  | .name _ => none

/-- The name, if the identifier is one. -/
def name? : Identifier → Option String
  | .number _ => none
  | .name text => some text

/-- Numbers sort before names, each among themselves. -/
instance : Ord Identifier :=
  ⟨compareLex (compareOn name?) (compareOn number?)⟩

instance : Std.TransOrd Identifier :=
  inferInstanceAs (Std.TransCmp (compareLex (compareOn name?) (compareOn number?)))

instance : Std.LawfulEqOrd Identifier where
  eq_of_compare {a b} h := by
    have h' : compareLex (compareOn name?) (compareOn number?) a b = .eq := h
    simp only [compareLex_eq_eq, compareOn, Std.LawfulEqOrd.compare_eq_iff_eq] at h'
    cases a <;> cases b <;> simp_all [name?, number?]

/-- A number stands bare, a name between quotes. -/
def display : Identifier → String
  | .number id => toString id.toInt
  | .name text => "'" ++ text ++ "'"

end Identifier

/-- One kind with its identifier, which may still be open. -/
structure PathElement where
  kind : String
  id : Option Identifier
deriving DecidableEq

namespace PathElement

instance : Ord PathElement :=
  ⟨compareLex (compareOn kind) (compareOn id)⟩

instance : Std.TransOrd PathElement :=
  inferInstanceAs (Std.TransCmp (compareLex (compareOn kind) (compareOn id)))

instance : Std.LawfulEqOrd PathElement where
  eq_of_compare {a b} h := by
    have h' : compareLex (compareOn kind) (compareOn id) a b = .eq := h
    simp only [compareLex_eq_eq, compareOn, Std.LawfulEqOrd.compare_eq_iff_eq] at h'
    obtain ⟨k, i⟩ := a
    obtain ⟨k', i'⟩ := b
    simp_all

/-- The kind with its identifier, or a question mark for an open one. -/
def display (e : PathElement) : String :=
  e.kind ++ "(" ++ (e.id.map Identifier.display).getD "?" ++ ")"

end PathElement

/-- The address of a record. -/
structure Key where
  path : List PathElement
deriving DecidableEq

namespace Key

instance : Ord Key :=
  ⟨compareOn path⟩

instance : Std.TransOrd Key :=
  inferInstanceAs (Std.TransCmp (compareOn path))

instance : Std.LawfulEqOrd Key where
  eq_of_compare {a b} h := by
    have h' : compare a.path b.path = .eq := h
    obtain ⟨p⟩ := a
    obtain ⟨p'⟩ := b
    simp_all

/-- Kind of the addressed record; the empty path has the empty kind. -/
def kind (k : Key) : String :=
  (k.path.getLast?.map (·.kind)).getD ""

/-- Identifier of the addressed record. -/
def id? (k : Key) : Option Identifier :=
  k.path.getLast?.bind (·.id)

/-- The number that the last element has, if it has one. -/
def number? (k : Key) : Option Int64 :=
  k.id?.bind Identifier.number?

/-- The name that the last element has, if it has one. -/
def name? (k : Key) : Option String :=
  k.id?.bind Identifier.name?

/-- Whether the last element has an identifier. -/
def hasIdentifier (k : Key) : Bool :=
  k.id?.isSome

/-- Whether there is a path and every element of it has an identifier. -/
def isComplete (k : Key) : Bool :=
  !k.path.isEmpty && k.path.all (·.id.isSome)

/-- The key one element up; a root has none. -/
def parent? (k : Key) : Option Key :=
  if k.path.length < 2 then none else some ⟨k.path.dropLast⟩

/-- Key of the entity group: the first element alone. -/
def root (k : Key) : Key :=
  ⟨k.path.take 1⟩

/-- Replaces the last identifier by a number. -/
def withNumber (k : Key) (id : Int64) : Key :=
  match k.path.getLast? with
  | none => k
  | some last => ⟨k.path.dropLast ++ [{ last with id := some (.number id) }]⟩

/-- Whether `k` is `other` itself or lies above it. -/
def isAncestorOf (k other : Key) : Bool :=
  k.path.isPrefixOf other.path

/-- Ancestry is being an initial part of the path. -/
theorem isAncestorOf_iff {k other : Key} : k.isAncestorOf other = true ↔ k.path <+: other.path := by
  simp [isAncestorOf]

/-- A key with a path lies in one entity group with everything below it. -/
theorem root_eq_of_isAncestorOf {k other : Key} (nonempty : k.path ≠ [])
    (above : k.isAncestorOf other = true) : other.root = k.root := by
  obtain ⟨below, extended⟩ := isAncestorOf_iff.mp above
  rw [root, root, ← extended]
  cases path : k.path with
  | nil => contradiction
  | cons first rest => rfl

/-- The path elements joined by slashes. -/
def display (k : Key) : String :=
  "Key[" ++ "/".intercalate (k.path.map PathElement.display) ++ "]"

/-- The name by which filters and orders speak of the key itself. -/
def propertyName : String :=
  "__key__"

end Key

end EntityStore
