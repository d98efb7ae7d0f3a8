import SchemaFilter.Unicode.FoldingTable
import SchemaFilter.Unicode.Ranges

/-!
# Simple case folding

`fold` takes a character to the one that stands for its case class, and two characters are equal up
to case when they fold alike. `variants` lists the class of a character. Letters of ASCII are folded
by rule; the table also says which other characters fold to them.
-/

namespace SchemaFilter.Unicode

open Text (pieces)

/-- The classes of the table, each with the character that its members fold to in front. -/
def foldingClasses : Array (List Char) :=
  (foldingLines.flatMap fun line =>
    (words line.toList).map fun word => (pieces '=' word).map (Char.ofNat ∘ hexNumber)).toArray

/-- The members of all classes in ascending order, each with the index of its class. -/
def foldingIndex : Array (Nat × Nat) :=
  let entries := (foldingClasses.toList.zipIdx).flatMap fun (members, i) =>
    members.map fun c => (c.toNat, i)
  (entries.mergeSort (fun a b => a.1 ≤ b.1)).toArray

/-- The value stored for `n` at an index from `low` to before `high`. -/
def lookUp (index : Array (Nat × Nat)) (n : Nat) : (fuel low high : Nat) → Option Nat
  | 0, _, _ => none
  | fuel + 1, low, high =>
    if high ≤ low then none
    else
      let middle := (low + high) / 2
      match index[middle]? with
      | none => none
      | some (key, found) =>
        if n < key then lookUp index n fuel low middle
        else if key < n then lookUp index n fuel (middle + 1) high
        else some found

def foldingClass? (c : Char) : Option (List Char) := do
  let i ← lookUp foldingIndex c.toNat (foldingIndex.size + 1) 0 foldingIndex.size
  foldingClasses[i]?

/-- The character that a character folds to. -/
def fold (c : Char) : Char :=
  if c.toNat < 128 then c.toLower
  else
    match foldingClass? c with
    | some (target :: _) => target
    | _ => c

/-- The characters that fold to the same character as `c`. -/
def variants (c : Char) : List Char :=
  match foldingClass? c with
  | some members => members
  | none => [c]

end SchemaFilter.Unicode
