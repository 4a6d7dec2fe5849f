import EntityStore.Json.Numeral

/-!
# JSON documents

A document is kept as it is written: the text between the quotes of a string keeps its escapes and
a number keeps its digits.  What strings and numbers mean is settled when a document is decoded, so
parts that are never decoded are never judged.
-/

namespace EntityStore

/-- A JSON document. -/
inductive Json where
  | null
  | boolean (value : Bool)
  /-- A number in its written form. -/
  | number (numeral : Json.Numeral)
  /-- The bytes between the quotes, escapes included. -/
  | string (body : List UInt8)
  | array (items : List Json)
  | object (members : List (List UInt8 × Json))

namespace Json

/-- The bytes of a text. -/
def bytesOf (s : String) : List UInt8 :=
  s.toUTF8.data.toList

/-- The byte that encloses strings. -/
def quote : UInt8 := 0x22

/-- The byte that begins an escape. -/
def backslash : UInt8 := 0x5c

/-- The lower-case hexadecimal digit of a number below sixteen. -/
def hexDigit (n : Nat) : UInt8 :=
  if n < 10 then UInt8.ofNat (48 + n) else UInt8.ofNat (87 + n)

/-- How one byte of a text stands between quotes: quotes, backslashes and control characters are
escaped. -/
def escapeByte (b : UInt8) : List UInt8 :=
  if b = quote ∨ b = backslash then [backslash, b]
  else if b = 0x08 then [backslash, 0x62]
  else if b = 0x09 then [backslash, 0x74]
  else if b = 0x0a then [backslash, 0x6e]
  else if b = 0x0c then [backslash, 0x66]
  else if b = 0x0d then [backslash, 0x72]
  else if b < 0x20 then
    [backslash, 0x75, 0x30, 0x30, hexDigit (b.toNat / 16), hexDigit (b.toNat % 16)]
  else [b]

/-- The document of a text. -/
def ofString (s : String) : Json :=
  .string ((bytesOf s).flatMap escapeByte)

/-- The document of a whole number. -/
def ofInt (n : Int) : Json :=
  .number (.ofInt n)

/-- An object from its members in order. -/
def ofMembers (members : List (String × Json)) : Json :=
  .object (members.map fun (name, value) => ((bytesOf name).flatMap escapeByte, value))

mutual

/-- The compact written form of a document. -/
def write : Json → List UInt8
  | .null => [0x6e, 0x75, 0x6c, 0x6c]
  | .boolean true => [0x74, 0x72, 0x75, 0x65]
  | .boolean false => [0x66, 0x61, 0x6c, 0x73, 0x65]
  | .number numeral => numeral.write
  | .string body => quote :: body ++ [quote]
  | .array [] => [0x5b, 0x5d]
  | .array (item :: rest) => 0x5b :: write item ++ writeItems rest
  | .object [] => [0x7b, 0x7d]
  | .object ((name, value) :: rest) =>
    0x7b :: quote :: name ++ [quote, 0x3a] ++ write value ++ writeMembers rest

/-- The items after the first one, with the closing bracket. -/
def writeItems : List Json → List UInt8
  | [] => [0x5d]
  | item :: rest => 0x2c :: write item ++ writeItems rest

/-- The members after the first one, with the closing brace. -/
def writeMembers : List (List UInt8 × Json) → List UInt8
  | [] => [0x7d]
  | (name, value) :: rest =>
    0x2c :: quote :: name ++ [quote, 0x3a] ++ write value ++ writeMembers rest

end

end Json

end EntityStore
