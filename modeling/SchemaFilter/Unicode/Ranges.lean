import SchemaFilter.Text.Pieces

/-!
# Ranges of code points

A set of characters given by its ranges in ascending order. Membership is a binary search. Tables
are written as lines of hexadecimal ranges such as `41-5A 61-7A AA`.
-/

namespace SchemaFilter.Unicode

open Text (pieces)

/-- The value of an upper-case hexadecimal digit; other characters count as zero. -/
def hexDigitValue (c : Char) : Nat :=
  if '0' ≤ c ∧ c ≤ '9' then c.toNat - '0'.toNat
  else if 'A' ≤ c ∧ c ≤ 'F' then c.toNat - 'A'.toNat + 10
  else 0

def hexNumber (digits : List Char) : Nat :=
  digits.foldl (fun n c => 16 * n + hexDigitValue c) 0

/-- The words of a line, which are separated by single blanks. -/
def words (cs : List Char) : List (List Char) :=
  pieces ' ' cs

/-- Ranges of code points, both ends included, in ascending order. -/
structure Ranges where
  bounds : Array (Nat × Nat)
deriving Inhabited

namespace Ranges

def readRange (word : List Char) : Nat × Nat :=
  match pieces '-' word with
  | [low, high] => (hexNumber low, hexNumber high)
  | _ => (hexNumber word, hexNumber word)

def ofLines (lines : List String) : Ranges :=
  ⟨(lines.flatMap fun line => (words line.toList).map readRange).toArray⟩

/-- Whether some range with an index from `low` to before `high` contains `n`. -/
def search (bounds : Array (Nat × Nat)) (n : Nat) : (fuel low high : Nat) → Bool
  | 0, _, _ => false
  | fuel + 1, low, high =>
    if high ≤ low then false
    else
      let middle := (low + high) / 2
      match bounds[middle]? with
      | none => false
      | some (first, last) =>
        if n < first then search bounds n fuel low middle
        else if last < n then search bounds n fuel (middle + 1) high
        else true

def contains (r : Ranges) (c : Char) : Bool :=
  search r.bounds c.toNat (r.bounds.size + 1) 0 r.bounds.size

end Ranges

end SchemaFilter.Unicode
