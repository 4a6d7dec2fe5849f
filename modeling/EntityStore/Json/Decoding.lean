import EntityStore.Json.Reader

/-!
# Decoding JSON

Decoding gives meaning to a document.  Arrays and objects are entered one level at a time and at
most `depthLimit` levels deep.

A record may be given as an object, where unknown members are passed over and known ones may not
repeat, or as an array of exactly its fields.  A tagged value is an object with one member, or a
bare string when it has no contents.
-/

namespace EntityStore.Json

/-- How many arrays and objects may enclose each other. -/
def depthLimit : Nat :=
  127

/-- The number written by four hexadecimal digits. -/
def hexUnit? (h₁ h₂ h₃ h₄ : UInt8) : Option Nat := do
  let a ← hexValue? h₁
  let b ← hexValue? h₂
  let c ← hexValue? h₃
  let d ← hexValue? h₄
  return a * 4096 + b * 256 + c * 16 + d

/-- The bytes of a code point. -/
def codePointBytes (n : Nat) : List UInt8 :=
  bytesOf (String.singleton (Char.ofNat n))

/-- The byte that a short escape stands for. -/
def shortEscapeByte (e : UInt8) : UInt8 :=
  if e = 0x62 then 0x08
  else if e = 0x66 then 0x0c
  else if e = 0x6e then 0x0a
  else if e = 0x72 then 0x0d
  else if e = 0x74 then 0x09
  else e

/-- Undoes the escapes of a string body; surrogates must come in pairs. -/
def unescape : List UInt8 → Option (List UInt8)
  | [] => some []
  | b :: rest =>
    if b = backslash then
      match rest with
      | [] => none
      | e :: rest =>
        if e = 0x75 then
          match rest with
          | h₁ :: h₂ :: h₃ :: h₄ :: rest =>
            match hexUnit? h₁ h₂ h₃ h₄ with
            | none => none
            | some unit =>
              if 0xdc00 ≤ unit ∧ unit ≤ 0xdfff then none
              else if 0xd800 ≤ unit ∧ unit ≤ 0xdbff then
                match rest with
                | s :: u :: l₁ :: l₂ :: l₃ :: l₄ :: rest =>
                  if s = backslash ∧ u = 0x75 then
                    match hexUnit? l₁ l₂ l₃ l₄ with
                    | none => none
                    | some low =>
                      if 0xdc00 ≤ low ∧ low ≤ 0xdfff then
                        (unescape rest).map
                          (codePointBytes (0x10000 + (unit - 0xd800) * 1024 + (low - 0xdc00)) ++ ·)
                      else none
                  else none
                | _ => none
              else (unescape rest).map (codePointBytes unit ++ ·)
          | _ => none
        else (unescape rest).map (shortEscapeByte e :: ·)
    else (unescape rest).map (b :: ·)

/-- The text of a string body. -/
def textOfBody? (body : List UInt8) : Option String :=
  (unescape body).bind fun bytes => String.fromUTF8? ⟨bytes.toArray⟩

/-- The text of a string. -/
def string? : Json → Option String
  | .string body => textOfBody? body
  | _ => none

/-- A document as a truth value. -/
def boolean? : Json → Option Bool
  | .boolean b => some b
  | _ => none

/-- A document as a whole number of 64 bits. -/
def int64? : Json → Option Int64
  | .number n => n.int64?
  | _ => none

/-- A document as a byte. -/
def byte? : Json → Option UInt8
  | .number n => n.byte?
  | _ => none

/-- A double; whole numbers count. -/
def binary64? : Json → Option Binary64
  | .number n =>
    match n.int? with
    | some value => some (Binary64.nearest (decide (value < 0)) value.natAbs 1)
    | none => n.binary64?
  | _ => none

/-- An optional part: a missing member and a null are both nothing. -/
def optional? {α : Type} (decode : Json → Option α) : Option Json → Option (Option α)
  | none => some none
  | some .null => some none
  | some document => (decode document).map some

/-- Enters an array. -/
def items? {α : Type} (decode : Nat → Json → Option α) : Nat → Json → Option (List α)
  | depth + 1, .array items => items.mapM (decode depth)
  | _, _ => none

/-- The fields of a record by name, each with its document if it is there; and the depth that is
left inside. -/
def fields? (names : List String) : Nat → Json → Option (Nat × List (Option Json))
  | depth + 1, .array items =>
    if items.length = names.length then some (depth, items.map some) else none
  | depth + 1, .object members => do
    let named ← members.mapM fun (body, value) => (textOfBody? body).map (·, value)
    let found ← names.mapM fun name =>
      match named.filter (·.1 = name) with
      | [] => some none
      | [(_, value)] => some (some value)
      | _ => none
    return (depth, found)
  | _, _ => none

/-- A tagged value: its tag, its contents if it has any, and the depth that is left inside. -/
def tagged? : Nat → Json → Option (Nat × String × Option Json)
  | depth, .string body => (textOfBody? body).map fun tag => (depth, tag, none)
  | depth + 1, .object [(body, value)] =>
    (textOfBody? body).map fun tag => (depth, tag, some value)
  | _, _ => none

mutual

/-- Whether a whole document can be decoded: texts are valid, numbers are in range, and nothing is
nested too deep. -/
def isSound : Nat → Json → Bool
  | _, .null => true
  | _, .boolean _ => true
  | _, .number n => n.int?.isSome || n.binary64?.isSome
  | _, .string body => (textOfBody? body).isSome
  | 0, .array _ => false
  | depth + 1, .array items => areSound depth items
  | 0, .object _ => false
  | depth + 1, .object members => membersSound depth members

/-- Whether all documents can be decoded. -/
def areSound : Nat → List Json → Bool
  | _, [] => true
  | depth, item :: rest => isSound depth item && areSound depth rest

/-- Whether all members and their names can be decoded. -/
def membersSound : Nat → List (List UInt8 × Json) → Bool
  | _, [] => true
  | depth, (name, value) :: rest =>
    (textOfBody? name).isSome && isSound depth value && membersSound depth rest

end

end EntityStore.Json
