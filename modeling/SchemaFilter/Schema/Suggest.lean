import SchemaFilter.Schema.Basic
import SchemaFilter.Text.EditDistance
import SchemaFilter.Unicode.Lowercase

/-!
# Suggestions

The filterable field whose name is nearest to a given one, both in lower case. The first of several
nearest fields is taken; nothing is suggested beyond a distance of three, or if the nearest field
has the given name itself.
-/

namespace SchemaFilter.Schema

def suggestionDistance : Nat := 3

/-- The distance of two names, case aside. -/
def nameDistance (a b : String) : Nat :=
  Text.editDistance (Unicode.toLower a) (Unicode.toLower b)

/-- The first entry with the least weight. -/
def firstLeast (weight : α → Nat) : List α → Option α
  | [] => none
  | a :: as =>
    match firstLeast weight as with
    | some b => if weight b < weight a then some b else some a
    | none => some a

/-- The names that may be suggested. -/
def visibleNames (s : Schema) : List String :=
  (s.fields.filter (·.filterable)).map (·.name)

/-- The nearest visible field name, if it is near enough and not the name itself. -/
def suggest (s : Schema) (name : String) : Option String := do
  let best ← firstLeast (nameDistance name) s.visibleNames
  if best != name && nameDistance name best ≤ suggestionDistance then some best else none

end SchemaFilter.Schema
