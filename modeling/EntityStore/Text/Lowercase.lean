import EntityStore.Text.CaseTables
import EntityStore.Text.Ranges

/-!
# Lower case

Full lower-casing of a text.  Every character maps on its own, except that a capital sigma becomes
a final sigma at the end of a word: after a cased character and not before one, passing over the
characters that case ignores.
-/

namespace EntityStore.Text

/-- Whether a character has the property Cased. -/
def isCased (c : Char) : Bool :=
  inRanges casedRanges c.toNat

/-- Whether a character has the property Case_Ignorable. -/
def isCaseIgnorable (c : Char) : Bool :=
  inRanges caseIgnorableRanges c.toNat

/-- Whether the first character that case does not ignore is cased. -/
def meetsCased (cs : List Char) : Bool :=
  match cs.dropWhile isCaseIgnorable with
  | c :: _ => isCased c
  | [] => false

/-- The lower-case form of one character by itself. -/
def lowerChar (c : Char) : List Char :=
  let n := c.toNat
  if n < 0x80 then [c.toLower]
  else if n = 0x130 then ['i', Char.ofNat 0x307]
  else
    let run := lowercaseRuns.find? fun (first, last, stride, _) =>
      decide (first ≤ n) && decide (n ≤ last) && (n - first) % stride == 0
    match run with
    | some (first, _, _, target) => [Char.ofNat (target + (n - first))]
    | none => [c]

/-- Lower-cases the rest of a text; `before` holds the characters already passed, last first. -/
def lowerFrom (before : List Char) : List Char → List Char
  | [] => []
  | c :: rest =>
    let form :=
      if c = 'Σ' then
        if meetsCased before && !meetsCased rest then ['ς'] else ['σ']
      else lowerChar c
    form ++ lowerFrom (c :: before) rest

/-- A text in lower case. -/
def lowercase (s : String) : String :=
  String.ofList (lowerFrom [] s.toList)

end EntityStore.Text
