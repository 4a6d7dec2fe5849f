import EntityStore.Decimal.Basic

/-!
# Settings documents

A settings document is a flat YAML mapping: lines of a name, a colon and a value, or the same
between braces.  Comments run from a hash sign to the end of the line.  A document without entries
is an empty mapping.
-/

namespace EntityStore.Settings

/-- The value of one entry. -/
inductive Scalar where
  /-- Written without quotes, so it may be a number, a truth value or nothing. -/
  | plain (text : String)
  /-- Written between quotes, so it is a text. -/
  | quoted (text : String)
  /-- A list or a mapping, whose contents no setting needs. -/
  | collection
deriving DecidableEq

/-- Whether a character is a space or a tab. -/
def isBlankChar (c : Char) : Bool :=
  c == ' ' || c == '\t'

/-- Drops spaces and tabs on both sides. -/
def trimBlank (cs : List Char) : List Char :=
  ((cs.dropWhile isBlankChar).reverse.dropWhile isBlankChar).reverse

/-- Cuts a comment off a line: a hash sign at the start or after a blank, outside quotes. -/
def withoutComment (afterBlank : Bool) (inQuotes : Option Char) : List Char → List Char
  | [] => []
  | c :: rest =>
    match inQuotes with
    | some q => c :: withoutComment false (if c = q then none else inQuotes) rest
    | none =>
      if c = '#' && afterBlank then []
      else
        let opens := c = '"' ∨ c = '\''
        c :: withoutComment (isBlankChar c) (if opens && afterBlank then some c else none) rest

/-- The characters that open something else than a plain value. -/
def isIndicator (c : Char) : Bool :=
  ['[', ']', '{', '}', '&', '*', '!', '|', '>', '%', '@', '\x60', '"', '\'', ',', '#'].contains c

/-- Whether brackets and braces close in the order in which they were opened. -/
def isBalanced (opened : List Char) : List Char → Bool
  | [] => opened.isEmpty
  | c :: rest =>
    if c = '[' then isBalanced (']' :: opened) rest
    else if c = '{' then isBalanced ('}' :: opened) rest
    else if c = ']' ∨ c = '}' then
      match opened with
      | top :: more => top == c && isBalanced more rest
      | [] => false
    else isBalanced opened rest

/-- Whether a plain value contains a mark that would start another entry. -/
def hasEntryMark : List Char → Bool
  | ':' :: c :: rest => isBlankChar c || hasEntryMark (c :: rest)
  | [':'] => true
  | _ :: rest => hasEntryMark rest
  | [] => false

/-- Reads the text of a value or a name. -/
def scalar? (cs : List Char) : Option Scalar :=
  match trimBlank cs with
  | [] => some (.plain "")
  | c :: rest =>
    if c = '"' ∨ c = '\'' then
      if rest.getLast? = some c && !rest.dropLast.contains c then
        some (.quoted (String.ofList rest.dropLast))
      else none
    else if c = '[' ∨ c = '{' then
      if isBalanced [] (c :: rest) then some .collection else none
    else if isIndicator c || hasEntryMark (c :: rest) then none
    else if (c = '-' ∨ c = '?') && (rest.isEmpty || rest.head? = some ' ') then none
    else some (.plain (String.ofList (c :: rest)))

/-- Splits an entry at its colon, which a blank or the end of the text follows. -/
def splitMember? : List Char → Option (List Char × List Char)
  | [] => none
  | [':'] => some ([], [])
  | ':' :: c :: rest =>
    if isBlankChar c then some ([], rest)
    else (splitMember? (c :: rest)).map fun (name, value) => (':' :: name, value)
  | c :: rest => (splitMember? rest).map fun (name, value) => (c :: name, value)

/-- Reads one entry. -/
def member? (cs : List Char) : Option (String × Scalar) := do
  let (name, value) ← splitMember? cs
  let value ← scalar? value
  match ← scalar? name with
  | .plain text | .quoted text => return (text, value)
  | .collection => none

/-- The parts between commas. -/
def splitCommas (cs : List Char) : List (List Char) :=
  cs.splitOn ','

/-- Reads the entries between braces; a comma may end them. -/
def flowEntries? (cs : List Char) : Option (List (String × Scalar)) :=
  match trimBlank cs with
  | '{' :: rest =>
    if rest.getLast? = some '}' then
      let inner := rest.dropLast
      if inner.all isBlankChar then some []
      else
        let parts := splitCommas inner
        let parts := if (parts.getLast?.getD []).all isBlankChar then parts.dropLast else parts
        parts.mapM fun part => member? (trimBlank part)
    else none
  | _ => none

/-- The indentation of a line. -/
def indentation (cs : List Char) : Nat :=
  (cs.takeWhile (· == ' ')).length

/-- Reads the entries of a document, in order. -/
def entries? (text : String) : Option (List (String × Scalar)) :=
  let lines := (text.toList.filter (· != '\x0d')).splitOn '\n'
  let lines := lines.map (withoutComment true none)
  let lines := lines.filter fun line => !line.all isBlankChar
  let lines := match lines with
    | first :: rest => if String.ofList (trimBlank first) = "---" then rest else lines
    | [] => []
  match lines with
  | [] => some []
  | first :: rest =>
    if (first.dropWhile isBlankChar).head? = some '{' then
      flowEntries? (first ++ rest.flatten)
    else if lines.all fun line => indentation line == indentation first then
      lines.mapM fun line => member? (trimBlank line)
    else none

end EntityStore.Settings
