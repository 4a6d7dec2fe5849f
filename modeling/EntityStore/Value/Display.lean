import EntityStore.Binary64.Text
import EntityStore.Value.Basic

/-!
# Values as shown to people

Text stands between quotes, bytes are only counted, and a list is shown between brackets.
-/

namespace EntityStore

/-- Latitude and longitude, joined by a comma. -/
def GeoPoint.display (p : GeoPoint) : String :=
  p.latitude.display ++ "," ++ p.longitude.display

namespace Value

mutual

/-- The text shown for a value. -/
def display : Value → String
  | .null => "None"
  | .boolean b => if b then "true" else "false"
  | .integer i | .rating i => toString i.toInt
  | .float x => x.display
  | .byteString b | .blob b => "<" ++ toString b.length ++ " bytes>"
  | .dateTime d => d.display
  | .date d => d.text
  | .time t => t.text
  | .key k => k.display
  | .user u => u.email
  | .geoPoint p => p.display
  | .handle h => "'" ++ h.text ++ "'"
  | .string s | .text s | .category s | .link s | .email s | .phoneNumber s | .postalAddress s =>
    "'" ++ s ++ "'"
  | .list items => "[" ++ ", ".intercalate (displayItems items) ++ "]"

/-- The texts shown for the items of a list. -/
def displayItems : List Value → List String
  | [] => []
  | v :: rest => display v :: displayItems rest

end

end Value

end EntityStore
