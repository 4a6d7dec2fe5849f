import EntityStore.Json.Basic

/-!
# Reading JSON

The reader checks the grammar of a document and nothing else: escapes must be well-formed, but a
lone surrogate, bytes that are no text, or a number out of range only matter once the part is
decoded.
-/

namespace EntityStore.Json

/-- White space between tokens. -/
def isSpace (b : UInt8) : Bool :=
  b == 0x20 || b == 0x09 || b == 0x0a || b == 0x0d

/-- What follows the white space at the start. -/
def skipSpace (bytes : List UInt8) : List UInt8 :=
  bytes.dropWhile isSpace

/-- The value of a hexadecimal digit. -/
def hexValue? (b : UInt8) : Option Nat :=
  if 0x30 ≤ b ∧ b ≤ 0x39 then some (b.toNat - 48)
  else if 0x61 ≤ b ∧ b ≤ 0x66 then some (b.toNat - 87)
  else if 0x41 ≤ b ∧ b ≤ 0x46 then some (b.toNat - 55)
  else none

/-- Whether a byte may follow a backslash on its own. -/
def isShortEscape (b : UInt8) : Bool :=
  b == quote || b == backslash || b == 0x2f || b == 0x62 || b == 0x66 || b == 0x6e || b == 0x72 ||
    b == 0x74

/-- Reads the body of a string up to the closing quote, which is dropped. -/
def readBody : List UInt8 → Option (List UInt8 × List UInt8)
  | [] => none
  | b :: rest =>
    if b = quote then some ([], rest)
    else if b < 0x20 then none
    else if b = backslash then
      match rest with
      | [] => none
      | e :: rest =>
        if isShortEscape e then
          (readBody rest).map fun (body, rest) => (b :: e :: body, rest)
        else if e = 0x75 then
          match rest with
          | h₁ :: h₂ :: h₃ :: h₄ :: rest =>
            if [h₁, h₂, h₃, h₄].all (hexValue? · |>.isSome) then
              (readBody rest).map fun (body, rest) => (b :: e :: h₁ :: h₂ :: h₃ :: h₄ :: body, rest)
            else none
          | _ => none
        else none
    else (readBody rest).map fun (body, rest) => (b :: body, rest)

/-- Drops an expected byte after white space. -/
def expect (b : UInt8) (bytes : List UInt8) : Option (List UInt8) :=
  match skipSpace bytes with
  | c :: rest => if c = b then some rest else none
  | [] => none

/-- Drops the expected bytes of a word. -/
def expectWord : List UInt8 → List UInt8 → Option (List UInt8)
  | [], bytes => some bytes
  | w :: word, b :: bytes => if w = b then expectWord word bytes else none
  | _ :: _, [] => none

mutual

/-- Reads one document off the front; every nested reading spends one unit of fuel. -/
def readValue : Nat → List UInt8 → Option (Json × List UInt8)
  | 0, _ => none
  | fuel + 1, bytes =>
    match skipSpace bytes with
    | [] => none
    | b :: rest =>
      if b = quote then (readBody rest).map fun (body, rest) => (.string body, rest)
      else if b = 0x5b then
        match skipSpace rest with
        | c :: more =>
          if c = 0x5d then some (.array [], more)
          else (readItems fuel (c :: more)).map fun (items, rest) => (.array items, rest)
        | [] => none
      else if b = 0x7b then
        match skipSpace rest with
        | c :: more =>
          if c = 0x7d then some (.object [], more)
          else (readMembers fuel (c :: more)).map fun (members, rest) => (.object members, rest)
        | [] => none
      else if b = 0x6e then (expectWord [0x75, 0x6c, 0x6c] rest).map fun rest => (.null, rest)
      else if b = 0x74 then
        (expectWord [0x72, 0x75, 0x65] rest).map fun rest => (.boolean true, rest)
      else if b = 0x66 then
        (expectWord [0x61, 0x6c, 0x73, 0x65] rest).map fun rest => (.boolean false, rest)
      else (Numeral.read (b :: rest)).map fun (numeral, rest) => (.number numeral, rest)

/-- Reads items separated by commas up to the closing bracket. -/
def readItems : Nat → List UInt8 → Option (List Json × List UInt8)
  | 0, _ => none
  | fuel + 1, bytes => do
    let (item, rest) ← readValue fuel bytes
    match skipSpace rest with
    | b :: rest =>
      if b = 0x5d then some ([item], rest)
      else if b = 0x2c then
        (readItems fuel rest).map fun (items, rest) => (item :: items, rest)
      else none
    | [] => none

/-- Reads members separated by commas up to the closing brace. -/
def readMembers : Nat → List UInt8 → Option (List (List UInt8 × Json) × List UInt8)
  | 0, _ => none
  | fuel + 1, bytes => do
    let (name, rest) ← readBody (← expect quote bytes)
    let (value, rest) ← readValue fuel (← expect 0x3a rest)
    match skipSpace rest with
    | b :: rest =>
      if b = 0x7d then some ([(name, value)], rest)
      else if b = 0x2c then
        (readMembers fuel rest).map fun (members, rest) => ((name, value) :: members, rest)
      else none
    | [] => none

end

/-- Reads a whole document with nothing but white space after it. -/
def read? (bytes : List UInt8) : Option Json :=
  match readValue (2 * bytes.length + 1) bytes with
  | some (document, rest) => if rest.all isSpace then some document else none
  | none => none

end EntityStore.Json
