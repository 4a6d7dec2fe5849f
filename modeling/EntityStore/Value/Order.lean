import EntityStore.Value.Basic

/-!
# The order of values

Values fall into families.  The order compares the families first and the values within a family
second, so values of different families are never equal.  Lists compare item by item, and a list
comes before its extensions.

`Value.agrees` is equality of values as a program sees it: the same type, and floats compared as
numbers.
-/

namespace EntityStore.Value

/-- Place of a value's family in the order. -/
def family : Value → Nat
  | .null => 0
  | .integer _ | .rating _ => 1
  | .dateTime _ | .date _ | .time _ => 2
  | .boolean _ => 3
  | .byteString _ | .blob _ => 4
  | .string _ | .text _ | .category _ | .link _ | .email _ | .handle _ | .phoneNumber _
  | .postalAddress _ => 5
  | .float _ => 6
  | .geoPoint _ => 7
  | .user _ => 8
  | .key _ => 9
  | .list _ => 10

/-- Whether two values are compared by what they hold. -/
def sameFamily (a b : Value) : Bool :=
  a.family == b.family

/-- The text that a value of the text family sorts by. -/
def sortText? : Value → Option String
  | .handle h => some h.text
  | v => v.text?

/-- The order of two values of one family, neither of them a list.  The values of a family share
one of these readings and have none of the others, so only that one decides. -/
def orderWithin : Value → Value → Ordering :=
  compareLex (compareOn integer?) <| compareLex (compareOn dateTime?) <|
    compareLex (compareOn boolean?) <| compareLex (compareOn bytes?) <|
    compareLex (compareOn sortText?) <| compareLex (compareOn float?) <|
    compareLex (compareOn geoPoint?) <| compareLex (compareOn user?) (compareOn key?)

mutual

/-- The order of two values. -/
def order : Value → Value → Ordering
  | .list a, .list b => orderItems a b
  | a, b => (compare a.family b.family).then (orderWithin a b)

/-- The order of two lists of values: by the first items that differ, else by length. -/
def orderItems : List Value → List Value → Ordering
  | [], [] => .eq
  | [], _ :: _ => .lt
  | _ :: _, [] => .gt
  | a :: as, b :: bs => (order a b).then (orderItems as bs)

end

mutual

/-- Whether two values have one type and equal contents, floats being compared as numbers. -/
def agrees : Value → Value → Bool
  | .null, .null => true
  | .boolean a, .boolean b => a == b
  | .integer a, .integer b => a == b
  | .float a, .float b => a.agrees b
  | .string a, .string b => a == b
  | .text a, .text b => a == b
  | .byteString a, .byteString b => a == b
  | .blob a, .blob b => a == b
  | .dateTime a, .dateTime b => a == b
  | .date a, .date b => a == b
  | .time a, .time b => a == b
  | .key a, .key b => a == b
  | .user a, .user b => a == b
  | .category a, .category b => a == b
  | .link a, .link b => a == b
  | .email a, .email b => a == b
  | .geoPoint a, .geoPoint b => a.latitude.agrees b.latitude && a.longitude.agrees b.longitude
  | .handle a, .handle b => a == b
  | .phoneNumber a, .phoneNumber b => a == b
  | .postalAddress a, .postalAddress b => a == b
  | .rating a, .rating b => a == b
  | .list a, .list b => agreeItems a b
  | _, _ => false

/-- Whether two lists have equally many items that agree in pairs. -/
def agreeItems : List Value → List Value → Bool
  | [], [] => true
  | a :: as, b :: bs => agrees a b && agreeItems as bs
  | _, _ => false

end

end EntityStore.Value
