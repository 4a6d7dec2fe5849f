import EntityStore.Query.Operator
import EntityStore.Text.Blank

/-!
# Filter texts

A filter text names a property and optionally an operator, separated by white space.  Without an
operator the filter asks for equality, and then nothing may follow the name.
-/

namespace EntityStore.FilterText

open EntityStore.Text (isBlank)

/-- The operator that a word of a filter text stands for; only `in` has letters, and their case
does not matter. -/
def operatorOfWord? (word : List Char) : Option Operator :=
  Operator.ofSymbol? (String.ofList (word.map Char.toLower))

/-- The part of a filter text after the name. -/
def operatorOfRest? (rest : List Char) : Option Operator :=
  if rest.isEmpty then some .equal
  else
    let words := rest.dropWhile isBlank
    if (words.dropWhile (!isBlank ·)).all isBlank then
      operatorOfWord? (words.takeWhile (!isBlank ·))
    else none

/-- Splits a filter text into the name and the operator. -/
def split? (text : List Char) : Option (List Char × Operator) :=
  let words := text.dropWhile isBlank
  let name := words.takeWhile (!isBlank ·)
  if name.isEmpty then none
  else (operatorOfRest? (words.dropWhile (!isBlank ·))).map fun operator => (name, operator)

/-- Reads a filter text. -/
def parse (text : String) : Except Failure (String × Operator) :=
  match split? text.toList with
  | some (name, operator) => return (String.ofList name, operator)
  | none => throw (.unparsedFilter text)

end EntityStore.FilterText
