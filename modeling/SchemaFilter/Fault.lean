import SchemaFilter.Schema.Definition

/-!
# Faults

A fault of a filter carries the path of the offending element. Paths are written from the root, with
a dot before each key and each index in brackets.
-/

namespace SchemaFilter

/-- A problem found in a filter. -/
structure Fault where
  path : String
  message : String
  /-- The offending name, if the schema does not declare it. -/
  unknownField : Option String := none
deriving DecidableEq, Repr, Inhabited

namespace Fault

def rootPath : String := "<root>"

def keyPath (parent key : String) : String :=
  parent ++ "." ++ key

def indexPath (parent : String) (index : Nat) : String :=
  parent ++ "[" ++ toString index ++ "]"

/-- The fault of a name that the schema does not declare. -/
def undeclared (path name : String) : Fault :=
  { path
    message := "Field \"" ++ name ++ "\" is not allowed for filtering"
    unknownField := some name }

def line (f : Fault) : String :=
  f.path ++ ": " ++ f.message

def layout (f : Fault) : Json.Layout :=
  .object ([("path", .string f.path), ("message", .string f.message)] ++
    Json.Layout.optional "unknown_field" Json.Layout.string f.unknownField)

def ofValue? (v : Value) : Option Fault := do
  let view := Value.view
  match ← view.components [["path"], ["message"], ["unknown_field"]] v with
  | [path, message, name] =>
    return {
      path := ← View.required view.text? path
      message := ← View.required view.text? message
      unknownField := ← view.optional view.text? name }
  | _ => none

end Fault

end SchemaFilter
