import EntityStore.Settings.Document
import EntityStore.Text.Lowercase

/-!
# Configuration

The settings of a client and its store, with their defaults, and the ways to read them: from named
variables and from a settings document.  Both ways check the result.
-/

namespace EntityStore

/-- The consistency that reads ask for. -/
inductive ReadPolicy where
  | strong
  | eventual
deriving DecidableEq

/-- The settings. -/
structure Configuration where
  /-- How many milliseconds a call to the store may take. -/
  deadline : Option Nat := none
  readPolicy : ReadPolicy := .strong
  /-- How often a transaction that collided is run again. -/
  transactionRetries : Nat := 3
  /-- Whether a schema may replace an earlier one of the same kind. -/
  allowRedefinition : Bool := false
  /-- How many primitive queries one query may become. -/
  maxQuerySets : Nat := 30
deriving DecidableEq

/-- Why settings are refused. -/
inductive ConfigurationError where
  | invalidValue (field : String) (value : String) (expected : String)
  | noQuerySets
  | noDeadline
  | malformed
deriving DecidableEq

namespace ConfigurationError

/-- The text of an error. -/
def message : ConfigurationError → String
  | .invalidValue field value expected =>
    s!"Invalid value for {field}: '{value}', expected {expected}"
  | .noQuerySets => "Configuration validation failed: max_query_sets must be at least 1"
  | .noDeadline => "Configuration validation failed: deadline_ms must be positive when set"
  | .malformed => "Failed to parse configuration"

end ConfigurationError

namespace ReadPolicy

/-- The name of a policy in settings. -/
def name : ReadPolicy → String
  | .strong => "strong"
  | .eventual => "eventual"

/-- The policy with exactly this name. -/
def named? (name : String) : Option ReadPolicy :=
  if name = "strong" then some .strong
  else if name = "eventual" then some .eventual
  else none

/-- Reads a policy in any letter case. -/
def parse (text : String) : Except ConfigurationError ReadPolicy :=
  match named? (Text.lowercase text) with
  | some policy => return policy
  | none => throw (.invalidValue "read_policy" text "strong or eventual")

end ReadPolicy

namespace Configuration

/-- Checks the settings that no default would make wrong. -/
def check (c : Configuration) : Except ConfigurationError Unit :=
  if c.maxQuerySets = 0 then throw .noQuerySets
  else if c.deadline = some 0 then throw .noDeadline
  else return

/-- Reads a truth value in any letter case. -/
def parseBool (field text : String) : Except ConfigurationError Bool :=
  let word := Text.lowercase text
  if ["1", "true", "yes", "on"].contains word then return true
  else if ["0", "false", "no", "off"].contains word then return false
  else throw (.invalidValue field text "a boolean")

/-- Reads a number below a bound. -/
def parseNat (field : String) (bound : Nat) (expected text : String) :
    Except ConfigurationError Nat :=
  match Decimal.boundedNat? bound text with
  | some n => return n
  | none => throw (.invalidValue field text expected)

/-- Reads a setting that is there, and keeps the default of one that is not. -/
def orDefault {α β : Type} (text : Option String) (default : β)
    (read : String → Except ConfigurationError α) (wrap : α → β) : Except ConfigurationError β :=
  match text with
  | some text => (read text).map wrap
  | none => return default

/-- Reads the settings from variables, looked up by name. -/
def ofVariables (lookup : String → Option String) : Except ConfigurationError Configuration := do
  let base : Configuration := {}
  let deadline ← orDefault (lookup "DEADLINE_MS") base.deadline
    (parseNat "deadline_ms" UInt64.size "milliseconds as an integer") some
  let readPolicy ← orDefault (lookup "READ_POLICY") base.readPolicy ReadPolicy.parse id
  let retries ← orDefault (lookup "TRANSACTION_RETRIES") base.transactionRetries
    (parseNat "transaction_retries" UInt32.size "a non-negative integer") id
  let redefinition ← orDefault (lookup "ALLOW_KIND_REDEFINITION") base.allowRedefinition
    (parseBool "allow_kind_redefinition") id
  let sets ← orDefault (lookup "MAX_QUERY_SETS") base.maxQuerySets
    (parseNat "max_query_sets" UInt64.size "a positive integer") id
  let configuration : Configuration := ⟨deadline, readPolicy, retries, redefinition, sets⟩
  configuration.check
  return configuration

open Settings (Scalar)

/-- Reads digits of a base. -/
def natOfBase? (base : Nat) (cs : List Char) : Option Nat :=
  let values := cs.map fun c =>
    if c.isDigit then c.toNat - 48
    else if 'a' ≤ c ∧ c ≤ 'f' then c.toNat - 87
    else if 'A' ≤ c ∧ c ≤ 'F' then c.toNat - 55
    else 16
  if cs.isEmpty || values.any (base ≤ ·) then none
  else some (values.foldl (fun n d => n * base + d) 0)

/-- Reads an unsigned number as settings documents write them: decimal without leading zeros, or
hexadecimal, octal or binary after their marks. -/
def natOfPlain? (text : String) : Option Nat :=
  let cs := match text.toList with
    | '+' :: rest => rest
    | cs => cs
  match cs with
  | '0' :: 'x' :: rest => natOfBase? 16 rest
  | '0' :: 'o' :: rest => natOfBase? 8 rest
  | '0' :: 'b' :: rest => natOfBase? 2 rest
  | '0' :: _ :: _ => none
  | cs => natOfBase? 10 cs

/-- Whether a plain value means nothing. -/
def isNothing (text : String) : Bool :=
  ["", "~", "null", "Null", "NULL"].contains text

/-- A plain value as a number below a bound. -/
def natOf? (bound : Nat) : Scalar → Option Nat
  | .plain text =>
    match natOfPlain? text with
    | some n => if n < bound then some n else none
    | none => none
  | _ => none

/-- A plain value as a truth value. -/
def boolOf? : Scalar → Option Bool
  | .plain text =>
    if ["true", "True", "TRUE"].contains text then some true
    else if ["false", "False", "FALSE"].contains text then some false
    else none
  | _ => none

/-- A value as a policy, which may stand between quotes. -/
def policyOf? : Scalar → Option ReadPolicy
  | .plain text | .quoted text => ReadPolicy.named? text
  | .collection => none

/-- A plain value as a deadline; an empty one means that there is none. -/
def deadlineOf? : Scalar → Option (Option Nat)
  | .plain text => if isNothing text then some none else (natOf? UInt64.size (.plain text)).map some
  | _ => none

/-- The settings of a document; entries that name no setting are passed over and settings may not
repeat. -/
def ofEntries? (entries : List (String × Scalar)) : Option Configuration := do
  let base : Configuration := {}
  let deadline ← setting "deadline_ms" base.deadline deadlineOf?
  let readPolicy ← setting "read_policy" base.readPolicy policyOf?
  let retries ← setting "transaction_retries" base.transactionRetries (natOf? UInt32.size)
  let redefinition ← setting "allow_kind_redefinition" base.allowRedefinition boolOf?
  let sets ← setting "max_query_sets" base.maxQuerySets (natOf? UInt64.size)
  return ⟨deadline, readPolicy, retries, redefinition, sets⟩
where
  /-- The value of one setting, or its default. -/
  setting {α : Type} (name : String) (default : α) (read : Scalar → Option α) : Option α :=
    match entries.filter (·.1 = name) with
    | [] => some default
    | [(_, value)] => read value
    | _ => none

/-- Reads the settings from a document. -/
def ofDocument (text : String) : Except ConfigurationError Configuration := do
  match (Settings.entries? text).bind ofEntries? with
  | none => throw .malformed
  | some configuration =>
    configuration.check
    return configuration

end Configuration

end EntityStore
