import SchemaFilter.Json.Printer
import SchemaFilter.Report.Style
import SchemaFilter.Schema.Basic

/-!
# Reports of records

Records are shown as a table with one line per record, or as JSON. Columns are as wide as their
widest cell and at most `maxWidth`; longer cells are cut. The line below the table says how many
records matched, and how many of them are shown if these are fewer.
-/

namespace SchemaFilter.Report

open Json (Layout)

def maxWidth : Nat := 24

/-- The text of a field: strings as they are, null as a hyphen, all else as JSON. -/
def cellText : Value → List Char
  | .null => ['-']
  | .string s => s.toList
  | v => (Json.print v).toList

def cell (record : Value) (column : String) : List Char :=
  truncated maxWidth (cellText (record.field column))

def width (records : List Value) (column : String) : Nat :=
  min maxWidth ((records.map fun r => (cell r column).length).foldl max column.length)

/-- Cells in one line, two blanks between them and none behind the last. -/
def row (widths : List Nat) (cells : List (List Char)) : List Char :=
  Text.trimEnd ([' ', ' '].intercalate (List.zipWith padded widths cells))

/-- The line with the names of the columns. -/
def headerRow (widths : List Nat) (columns : List String) : List Char :=
  row widths (List.zipWith (fun w c => truncated w c.toList) widths columns)

/-- How many records matched, and how many are shown if these are fewer. -/
def summary (shown matched total : Nat) : String :=
  toString matched ++ " of " ++ toString total ++ " record(s) matched" ++
    (if shown < matched then ", showing " ++ toString shown else "")

def recordsTable (colored : Bool) (columns : List String) (matched total : Nat)
    (records : List Value) : String :=
  if records.isEmpty then "No matching records.\n"
  else
    let widths := columns.map (width records)
    let line (record : Value) : String :=
      String.ofList (row widths (columns.map (cell record))) ++ "\n"
    dimmed colored (String.ofList (headerRow widths columns)) ++ "\n" ++
      String.join (records.map line) ++ "\n" ++ summary records.length matched total ++ "\n"

def countLayout (matched total : Nat) : Layout :=
  .object [("matched", .nat matched), ("total", .nat total)]

def recordsLayout (matched total : Nat) (records : List Value) : Layout :=
  .object [("matched", .nat matched), ("total", .nat total),
    ("records", .ofValue (.array records))]

/-! ## Columns -/

/-- Adds the names that are not there yet. -/
def addNames (columns : List String) (names : List String) : List String :=
  names.foldl (fun columns name =>
    if columns.contains name then columns else columns ++ [name]) columns

theorem addNames_prefix (columns names : List String) : columns <+: addNames columns names := by
  induction names generalizing columns with
  | nil => exact List.prefix_refl _
  | cons n names ih =>
    simp only [addNames, List.foldl_cons] at *
    split
    · exact ih columns
    · exact (List.prefix_append columns [n]).trans (ih _)

@[simp] theorem mem_addNames {columns names : List String} {name : String} :
    name ∈ addNames columns names ↔ name ∈ columns ∨ name ∈ names := by
  induction names generalizing columns with
  | nil => simp [addNames]
  | cons n names ih =>
    simp only [addNames, List.foldl_cons] at *
    rw [ih]
    split <;> grind

/-- The keys of a record; a record that is no object has none. -/
def recordKeys (record : Value) : List String :=
  (record.members?.getD []).map (·.1)

/-- The keys of records in the order in which they come up, after given columns. -/
def columnsAfter (columns : List String) (records : List Value) : List String :=
  records.foldl (fun columns record => addNames columns (recordKeys record)) columns

def recordColumns (records : List Value) : List String :=
  columnsAfter [] records

/-- The fields of a schema, and after them the keys of records that it does not declare. -/
def schemaColumns (s : Schema) (records : List Value) : List String :=
  addNames (s.fields.map (·.name)) (recordColumns records)

/-- The first records, if there is a limit. -/
def limited (limit : Option Nat) (records : List Value) : List Value :=
  match limit with
  | some n => records.take n
  | none => records

end SchemaFilter.Report
