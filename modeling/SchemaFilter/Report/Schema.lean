import SchemaFilter.Report.Style
import SchemaFilter.Schema.Basic

/-!
# Reports of schemas

A schema is shown with one line per field, and below it the values of a field that lists them.
-/

namespace SchemaFilter.Report

/-- A text on a width. -/
def column (width : Nat) (s : String) : String :=
  String.ofList (padded width s.toList)

/-- The four columns of the table. -/
def fieldRow (name type filterable operators : String) : String :=
  column 20 name ++ " " ++ column 8 type ++ " " ++ column 7 filterable ++ " " ++ operators

def fieldLines (f : Field) : String :=
  let operators := if f.filterable then ", ".intercalate (f.operators.map (·.name)) else "-"
  fieldRow (String.ofList (truncated 20 f.name.toList)) f.type.name
      (if f.filterable then "yes" else "no") operators ++ "\n" ++
    match f.enumValues with
    | some values => column 20 "" ++ " values: " ++ ", ".intercalate values ++ "\n"
    | none => ""

def schemaTable (colored : Bool) (s : Schema) : String :=
  let heading :=
    match s.entity with
    | some entity => "Schema: " ++ entity
    | none => "Schema"
  title colored heading ++ "\n\n" ++
    if s.fields.isEmpty then "No fields declared.\n"
    else
      dimmed colored (fieldRow "Field" "Type" "Filter" "Operators") ++ "\n" ++
        String.join (s.fields.map fieldLines)

end SchemaFilter.Report
