import EntityStore.Failure
import EntityStore.Text.Blank
import EntityStore.Url.Basic

/-!
# Making values

The checked ways to make users, points, handles and integers, and to read points and handles from
their texts.
-/

namespace EntityStore

namespace User

/-- A user without an id; the email may not be empty. -/
def make (email authDomain : String) : Except Failure User :=
  if email.isEmpty then throw .emptyEmail else return ⟨email, authDomain, none⟩

/-- The user with a stable id. -/
def withUserId (u : User) (id : String) : User :=
  { u with userId := some id }

/-- The part of the email before the first at-sign when the part after it is the user's own
domain, else the whole email. -/
def nickname (u : User) : String :=
  match Text.splitOnce '@' u.email with
  | some (before, domain) => if domain = u.authDomain then before else u.email
  | none => u.email

end User

namespace GeoPoint

/-- The least latitude. -/
def minusNinety : Binary64 := ⟨0xc056800000000000⟩

/-- The greatest latitude. -/
def ninety : Binary64 := ⟨0x4056800000000000⟩

/-- The least longitude. -/
def minusOneEighty : Binary64 := ⟨0xc066800000000000⟩

/-- The greatest longitude. -/
def oneEighty : Binary64 := ⟨0x4066800000000000⟩

/-- A point whose latitude and longitude are in range. -/
def make (latitude longitude : Binary64) : Except Failure GeoPoint :=
  if !(minusNinety.atMost latitude && latitude.atMost ninety) then
    throw (.latitudeOutOfRange latitude)
  else if !(minusOneEighty.atMost longitude && longitude.atMost oneEighty) then
    throw (.longitudeOutOfRange longitude)
  else return ⟨latitude, longitude⟩

/-- Reads two numbers separated by a comma; white space around them does not count. -/
def parse (text : String) : Except Failure GeoPoint :=
  match Text.splitOnce ',' text with
  | none => throw (.notACoordinatePair text)
  | some (latitude, longitude) =>
    match Binary64.parse? (Text.trim latitude), Binary64.parse? (Text.trim longitude) with
    | some latitude, some longitude => make latitude longitude
    | _, _ => throw (.coordinatesNotNumbers text)

end GeoPoint

namespace Handle

/-- The protocols that are words and not URLs. -/
def protocolWords : List String :=
  ["sip", "unknown", "xmpp"]

/-- Whether a text may be the protocol of a handle. -/
def isProtocol (protocol : String) : Bool :=
  protocolWords.contains protocol || (Url.parse? protocol).isSome

/-- A handle with a known protocol and an address. -/
def make (protocol address : String) : Except Failure Handle :=
  if !isProtocol protocol then throw (.unknownProtocol protocol)
  else if address.isEmpty then throw .emptyAddress
  else return ⟨protocol, address⟩

/-- Reads a handle: the protocol up to the first space, then the address. -/
def parse (text : String) : Except Failure Handle :=
  match Text.splitOnce ' ' text with
  | none => throw (.notAHandle text)
  | some (protocol, address) => make protocol address

end Handle

/-- An integer value, if the number fits sixty-four bits. -/
def Value.ofInt (value : Int) : Except Failure Value :=
  if Int64.minValue.toInt ≤ value ∧ value ≤ Int64.maxValue.toInt then
    return .integer (Int64.ofInt value)
  else throw (.integerTooWide value)

end EntityStore
