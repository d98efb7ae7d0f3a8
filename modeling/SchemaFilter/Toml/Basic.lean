import SchemaFilter.View

/-!
# TOML values

The values of TOML. Of a number with a fraction and of a date nothing but the kind is kept, for no
reader asks for more. A table remembers how it came to be, because that decides where it may be
added to: in braces, under a header of its own, as a part of the path of another header, or through
dotted keys.
-/

namespace SchemaFilter

/-- How a table came to be. -/
inductive TableKind where
  /-- Written in braces. -/
  | inline
  /-- Made by dotted keys inside braces. -/
  | inlineDotted
  /-- Written under a header; the document itself counts as one. -/
  | headed
  /-- Named in the path of a header only. -/
  | implied
  /-- Made by dotted keys. -/
  | dotted
deriving DecidableEq, Repr

/-- Whether a kind of table is written within braces. -/
def TableKind.isInline : TableKind → Bool
  | inline => true
  | inlineDotted => true
  | _ => false

/-- A TOML value. -/
inductive Toml where
  | string (s : String)
  | integer (n : Int)
  | float
  | boolean (b : Bool)
  | dateTime
  | array (items : List Toml)
  /-- Tables that share a header in double brackets. -/
  | tables (items : List Toml)
  | table (kind : TableKind) (entries : List (String × Toml))
deriving Inhabited

namespace Toml

/-- Whether a value is an empty container, as the value of a constant is. -/
def isEmpty : Toml → Bool
  | array items => items.isEmpty
  | tables items => items.isEmpty
  | table _ entries => entries.isEmpty
  | _ => false

/-- The name of a constant: a text, or the first key of a table whose value is empty. In braces
there is no second key. -/
def constant? : Toml → Option String
  | string s => some s
  | table kind ((key, value) :: others) =>
    if value.isEmpty && !(kind.isInline && !others.isEmpty) then some key else none
  | _ => none

/-- How TOML values show themselves. A date looks like a structure without any of the known keys. -/
def view : View Toml where
  isNull := fun _ => false
  text? := fun v => match v with
    | string s => some s
    | _ => none
  flag? := fun v => match v with
    | boolean b => some b
    | _ => none
  items? := fun v => match v with
    | array items => some items
    | tables items => some items
    | _ => none
  members? := fun v => match v with
    | table _ entries => some entries
    | dateTime => some []
    | _ => none
  constant? := constant?

end Toml

end SchemaFilter
