import SchemaFilter.Json.Printer
import SchemaFilter.Schema.Basic
import SchemaFilter.View

/-!
# Schemas as data

A schema is written with its entity, if it has a name, and its fields; every field is written with
its name, its type and whether it is filterable, and with its lists only if it has them. It is read
through a view; two of the keys have a second spelling, and the fields are then checked as
`Schema.define` checks them.
-/

namespace SchemaFilter

/-- The keys of a field, each with its spellings, in declaration order. -/
def Field.keys : List (List String) :=
  [["name"], ["type"], ["filterable"], ["allowed_operators", "allowedOperators"],
    ["enum_values", "enumValues"]]

/-- The keys of a schema in declaration order. -/
def Schema.keys : List (List String) :=
  [["entity"], ["fields"]]

namespace View

variable {α : Type} (view : View α)

def fieldType? (a : α) : Option FieldType := do
  FieldType.ofName? (← view.constant? a)

def operator? (a : α) : Option Operator := do
  Operator.ofName? (← view.constant? a)

def field? (a : α) : Option Field := do
  match ← view.components Field.keys a with
  | [name, type, filterable, operators, values] =>
    return {
      name := ← required view.text? name
      type := ← required view.fieldType? type
      filterable := ← withDefault true view.flag? filterable
      allowedOperators := ← view.optional (view.list view.operator?) operators
      enumValues := ← view.optional (view.list view.text?) values }
  | _ => none

/-- An entity name and a list of fields that are not yet checked. -/
def definition? (a : α) : Option (Option String × List Field) := do
  match ← view.components Schema.keys a with
  | [entity, fields] =>
    return (← view.optional view.text? entity, ← withDefault [] (view.list view.field?) fields)
  | _ => none

def schema? (a : α) : Option Schema := do
  let (entity, fields) ← view.definition? a
  (Schema.define entity fields).toOption

end View

open Json (Layout)

/-- A component that is left out if it is absent. -/
def Json.Layout.optional (key : String) (layout : β → Layout) : Option β → List (String × Layout)
  | none => []
  | some b => [(key, layout b)]

def Json.Layout.texts (names : List String) : Layout :=
  .array (names.map Layout.string)

def Field.layout (f : Field) : Layout :=
  .object <|
    [("name", .string f.name), ("type", .string f.type.name), ("filterable", .bool f.filterable)] ++
    Layout.optional "allowed_operators" (fun ops => .texts (ops.map (·.name))) f.allowedOperators ++
    Layout.optional "enum_values" Layout.texts f.enumValues

def Schema.layout (s : Schema) : Layout :=
  .object (Layout.optional "entity" Layout.string s.entity ++
    [("fields", .array (s.fields.map Field.layout))])

end SchemaFilter
