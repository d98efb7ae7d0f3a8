import SchemaFilter.Query.Clause
import SchemaFilter.Query.Document
import SchemaFilter.Schema.Definition

/-!
# Targets

The forms that a filter can be compiled to.
-/

namespace SchemaFilter

/-- A form that filters are compiled to. -/
inductive Target where
  | mongo
  | sql
deriving DecidableEq, Repr, Inhabited

/-- A compiled filter. -/
inductive Compiled where
  | document (d : Document)
  | clause (c : Clause)
deriving Inhabited

namespace Target

/-- Every target, in declaration order. -/
def all : List Target := [mongo, sql]

def name : Target → String
  | mongo => "mongo"
  | sql => "sql"

def ofName (name : String) : Except QueryError Target :=
  match all.find? (·.name == name) with
  | some t => .ok t
  | none => .error (.unknownTarget name)

@[simp] theorem ofName_name (t : Target) : ofName t.name = .ok t := by
  cases t <;> rfl

def compile (target : Target) (filter : Option Filter) : Except QueryError Compiled :=
  match target with
  | mongo => return .document (← Filter.document filter)
  | sql => return .clause (← Filter.clause filter)

end Target

/-- Compiles a filter to the target with a given name. -/
def compileTo (name : String) (filter : Option Filter) : Except QueryError Compiled := do
  (← Target.ofName name).compile filter

def Compiled.target : Compiled → Target
  | document _ => .mongo
  | clause _ => .sql

/-- A clause as data: its text, then its parameters. -/
def Clause.layout (c : Clause) : Json.Layout :=
  .object [("sql", .string c.text), ("params", Json.Layout.ofValue (.array c.parameters))]

def Clause.ofValue? (v : Value) : Option Clause := do
  let view := Value.view
  match ← view.components [["sql"], ["params"]] v with
  | [text, parameters] =>
    return ⟨← View.required view.text? text, ← View.required view.items? parameters⟩
  | _ => none

def Compiled.layout : Compiled → Json.Layout
  | document d => Json.Layout.ofValue d.toValue
  | clause c => c.layout

end SchemaFilter
