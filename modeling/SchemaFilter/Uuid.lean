/-!
# UUIDs

The hyphenated form of a UUID: groups of 8, 4, 4, 4 and 12 hexadecimal digits in either case. The
first digit of the third group is the version, here 1 to 5, and the first of the fourth the variant.
-/

namespace SchemaFilter.Uuid

def isHex (c : Char) : Bool :=
  c.isDigit || ('a' ≤ c && c ≤ 'f') || ('A' ≤ c && c ≤ 'F')

/-- Whether a character is a version digit from 1 to 5. -/
def isVersion (c : Char) : Bool :=
  '1' ≤ c && c ≤ '5'

/-- Whether a character is a variant digit: 8, 9, a or b. -/
def isVariant (c : Char) : Bool :=
  c == '8' || c == '9' || c == 'a' || c == 'b' || c == 'A' || c == 'B'

/-- What may stand at each position. -/
def shape : List (Char → Bool) :=
  let hex (n : Nat) := List.replicate n isHex
  let hyphen := (· == '-')
  hex 8 ++ hyphen :: hex 4 ++ hyphen :: isVersion :: hex 3 ++ hyphen :: isVariant :: hex 3 ++
    hyphen :: hex 12

/-- Whether a text has a shape, position by position. -/
def fits : List (Char → Bool) → List Char → Bool
  | [], [] => true
  | p :: ps, c :: cs => p c && fits ps cs
  | _, _ => false

/-- Whether a text is a UUID of a version from 1 to 5. -/
def accepts (s : String) : Bool :=
  fits shape s.toList

end SchemaFilter.Uuid
