import SchemaFilter.Schema.Definition
import SchemaFilter.Schema.JsonText
import SchemaFilter.Text.Pieces
import SchemaFilter.Toml.Parser

/-!
# Schema files

A schema file is written in TOML or in JSON, as the extension of its name says in either case of
letters.
-/

namespace SchemaFilter

inductive SchemaFormat where
  | toml
  | json
deriving DecidableEq, Repr

/-- Why a text describes no schema. -/
inductive SchemaTextError where
  | json (fault : Json.TextFault)
  | toml
deriving DecidableEq, Repr

/-- The parts of a path between slashes. -/
def pathParts (path : String) : List (List Char) :=
  Text.pieces '/' path.toList

/-- The last part of a path that names something: empty parts and single dots do not, except for a
dot in front. -/
def fileName? (path : String) : Option (List Char) := do
  let last ← ((pathParts path).reverse.find? fun part => !(part.isEmpty || part == ['.']))
  if last == ['.', '.'] then none else return last

/-- What follows the last point of a file name. A name that only starts with a point has none. -/
def extension? (path : String) : Option (List Char) := do
  let name := (← fileName? path).reverse
  let after := name.takeWhile (· != '.')
  match name.drop after.length with
  | _ :: _ :: _ => return after.reverse
  | _ => none

namespace SchemaFormat

def ofPath? (path : String) : Option SchemaFormat := do
  match (String.ofList (← extension? path)).toLower with
  | "toml" => return toml
  | "json" => return json
  | _ => none

def read (format : SchemaFormat) (text : String) : Except SchemaTextError Schema :=
  match format with
  | json => (Schema.ofJson text).mapError .json
  | toml =>
    match (Toml.parse text).bind Toml.view.schema? with
    | some s => .ok s
    | none => .error .toml

end SchemaFormat

end SchemaFilter
