import SchemaFilter.Diagnostic
import SchemaFilter.Query.Target
import SchemaFilter.Report.Style

/-!
# Reports of filters

What is said of a valid filter, of the faults of an invalid one, and of what a filter compiles to.
-/

namespace SchemaFilter.Report

open Json (Layout)

/-- What is said of a valid filter. Without conditions it selects everything. -/
def validText (colored : Bool) (conditions : Nat) : String :=
  let size :=
    match conditions with
    | 0 => "matches everything"
    | 1 => "1 condition"
    | n => toString n ++ " conditions"
  green colored "Filter is valid" ++ " (" ++ size ++ ")\n"

def validLayout (conditions : Nat) : Layout :=
  .object [("valid", .bool true), ("conditions", .nat conditions)]

def diagnosticLine (colored : Bool) (d : Diagnostic) : String :=
  let hint :=
    match d.hint with
    | some name => " (did you mean \"" ++ name ++ "\"?)"
    | none => ""
  "  " ++ yellow colored d.path ++ ": " ++ d.message ++ hint ++ "\n"

/-- Diagnostics, one on each line. -/
def diagnosticsText (colored : Bool) (ds : List Diagnostic) : String :=
  String.join (ds.map (diagnosticLine colored))

def diagnosticLayout (d : Diagnostic) : Layout :=
  .object (Layout.optional "hint" Layout.string d.hint ++
    [("message", .string d.message), ("path", .string d.path)])

def compiledText (colored : Bool) : Compiled → String
  | .document d => (Layout.ofValue d.toValue).render true ++ "\n"
  | .clause c =>
    dimmed colored "WHERE" ++ " " ++ c.text ++ "\n" ++ dimmed colored "Params" ++ ": " ++
      Json.print (.array c.parameters) ++ "\n"

/-- A compiled filter as data, with the name of its target. -/
def compiledLayout (c : Compiled) : Layout :=
  .object [("target", .string c.target.name), ("query", c.layout)]

end SchemaFilter.Report
