import SchemaFilter.Value.Basic

/-!
# Views of structured data

Schemas and settings are read from more than one format. A `View` says how a format shows the shapes
that matter to a reader: texts, flags, lists, members and named constants.

A structure is given by its keys or, as a list, by its components in order. Unknown keys are passed
over. Of the names of one component at most one may be used, and a list may be shorter than the
structure but not longer.
-/

namespace SchemaFilter

/-- How data of type `α` show themselves to a reader. -/
structure View (α : Type) where
  isNull : α → Bool
  text? : α → Option String
  flag? : α → Option Bool
  items? : α → Option (List α)
  members? : α → Option (List (String × α))
  /-- The name of a constant. -/
  constant? : α → Option String

namespace View

variable {α β : Type} (view : View α)

/-- The values of the keys that name one component; two of them are a fault. -/
def component (members : List (String × α)) (names : List String) : Option (Option α) :=
  match members.filter fun (key, _) => names.contains key with
  | [] => some none
  | [(_, a)] => some (some a)
  | _ => none

/-- The components of a structure, each of which may be absent. -/
def components (names : List (List String)) (a : α) : Option (List (Option α)) :=
  match view.members? a with
  | some members => names.mapM (component members)
  | none =>
    match view.items? a with
    | some items =>
      if names.length < items.length then none
      else some (items.map some ++ List.replicate (names.length - items.length) none)
    | none => none

/-- Reads an optional component; null stands for an absent one. -/
def optional (read : α → Option β) : Option α → Option (Option β)
  | none => some none
  | some a => if view.isNull a then some none else (read a).map some

def withDefault (default : β) (read : α → Option β) : Option α → Option β
  | none => some default
  | some a => read a

def required (read : α → Option β) : Option α → Option β
  | none => none
  | some a => read a

def list (read : α → Option β) (a : α) : Option (List β) := do
  (← view.items? a).mapM read

end View

/-- JSON values. A constant is its name, or an object with its name as the only key and null as the
value. -/
def Value.view : View Value where
  isNull := Value.isNull
  text? := Value.string?
  flag? := fun v => match v with
    | .bool b => some b
    | _ => none
  items? := Value.items?
  members? := Value.members?
  constant? := fun v => match v with
    | .string s => some s
    | .object [(key, .null)] => some key
    | _ => none

end SchemaFilter
