/-!
# Edit distance

The least number of insertions, deletions and replacements of single characters that turn one text
into another, computed row by row.
-/

namespace SchemaFilter.Text

/-- Continues a row of distances. `corner` is the entry above and to the left of the next one,
`left` the entry before it, `above` the entries above the rest of the row. -/
def extendRow (c : Char) :
    (corner left : Nat) → (target : List Char) → (above : List Nat) → List Nat
  | corner, left, d :: target, up :: above =>
    let here := min (min (left + 1) (up + 1)) (if c = d then corner else corner + 1)
    here :: extendRow c up here target above
  | _, _, _, _ => []

/-- The row of distances after one more character. -/
def nextRow (target : List Char) (row : List Nat) (c : Char) : List Nat :=
  match row with
  | [] => []
  | first :: above => (first + 1) :: extendRow c first (first + 1) target above

/-- The edit distance of two texts. -/
def editDistance (source target : List Char) : Nat :=
  let start := List.range (target.length + 1)
  (source.foldl (nextRow target) start).getLastD 0

end SchemaFilter.Text
