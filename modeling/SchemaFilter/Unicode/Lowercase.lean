import SchemaFilter.Unicode.BinaryProperty
import SchemaFilter.Unicode.LowercaseTable

/-!
# Lower case

The lower-case form of a text. Two characters need more than the table: a capital dotted I becomes
two characters, and a capital sigma at the end of a word becomes the final sigma.
-/

namespace SchemaFilter.Unicode

open Text (pieces)

/-- Every `step`-th character from `first` to `last` has its lower-case letter as far away as
`target` is from `first`. -/
structure LowercaseRun where
  first : Nat
  last : Nat
  step : Nat
  target : Nat
deriving Inhabited

def LowercaseRun.read (word : List Char) : LowercaseRun :=
  match pieces ':' word with
  | [range, step, target] =>
    let (first, last) := Ranges.readRange range
    ⟨first, last, hexNumber step, hexNumber target⟩
  | _ => default

def lowercaseRuns : List LowercaseRun :=
  lowercaseLines.flatMap fun line => (words line.toList).map LowercaseRun.read

/-- The single lower-case letter of a character; a character without one is its own. -/
def lowerChar (c : Char) : Char :=
  if c.toNat < 128 then c.toLower
  else
    let n := c.toNat
    match lowercaseRuns.find? fun r => r.first ≤ n && n ≤ r.last && (n - r.first) % r.step == 0 with
    | some r => Char.ofNat (r.target + (n - r.first))
    | none => c

/-- Whether the first character that does not leave case alone has a case. -/
def startsCased (cs : List Char) : Bool :=
  match cs.find? fun c => !BinaryProperty.caseIgnorable.contains c with
  | some c => BinaryProperty.cased.contains c
  | none => false

/-- The lower-case form of a text, given the characters before it in reverse order. -/
def lowerAfter (before : List Char) : List Char → List Char
  | [] => []
  | c :: rest =>
    let tail := lowerAfter (c :: before) rest
    if c = 'Σ' then
      (if startsCased before && !startsCased rest then 'ς' else 'σ') :: tail
    else if c = 'İ' then 'i' :: '\u0307' :: tail
    else lowerChar c :: tail

/-- The lower-case form of a text. -/
def toLower (s : String) : List Char :=
  lowerAfter [] s.toList

end SchemaFilter.Unicode
