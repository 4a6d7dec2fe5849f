/-!
# White space

The characters with the Unicode property White_Space, and trimming and splitting by them.
-/

namespace EntityStore.Text

/-- Whether a character has the property White_Space. -/
def isBlank (c : Char) : Bool :=
  let n := c.toNat
  (0x9 ≤ n && n ≤ 0xd) || n == 0x20 || n == 0x85 || n == 0xa0 || n == 0x1680 ||
    (0x2000 ≤ n && n ≤ 0x200a) || n == 0x2028 || n == 0x2029 || n == 0x202f || n == 0x205f ||
    n == 0x3000

/-- Drops white space at both ends. -/
def trimChars (cs : List Char) : List Char :=
  ((cs.dropWhile isBlank).reverse.dropWhile isBlank).reverse

/-- Drops white space at both ends. -/
def trim (s : String) : String :=
  String.ofList (trimChars s.toList)

/-- Splits characters at the first occurrence of a separator, which belongs to neither part. -/
def splitCharsOnce (separator : Char) : List Char → Option (List Char × List Char)
  | [] => none
  | c :: rest =>
    if c = separator then some ([], rest)
    else (splitCharsOnce separator rest).map fun (before, after) => (c :: before, after)

/-- Splits a text at the first occurrence of a separator, which belongs to neither part. -/
def splitOnce (separator : Char) (s : String) : Option (String × String) :=
  (splitCharsOnce separator s.toList).map fun (before, after) =>
    (String.ofList before, String.ofList after)

end EntityStore.Text
