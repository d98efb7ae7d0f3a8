import SchemaFilter.Json.Typed
import SchemaFilter.Schema.Basic

/-!
# Schemas in JSON text

A schema is read straight from its text. That its fields make a schema is checked before the text
behind it is looked at.
-/

namespace SchemaFilter

open Json

/-- The components of a field that have been read. -/
structure FieldDraft where
  name : Option String := none
  type : Option FieldType := none
  filterable : Option Bool := none
  allowedOperators : Option (List Operator) := none
  enumValues : Option (List String) := none

namespace FieldDraft

/-- The field, if its name and its type are known. -/
def finish? (d : FieldDraft) : Option Field := do
  return {
    name := ← d.name
    type := ← d.type
    filterable := d.filterable.getD true
    allowedOperators := d.allowedOperators
    enumValues := d.enumValues }

/-- The components of a field in declaration order. -/
def slots : List (Slot FieldDraft) :=
  [⟨["name"], fun d cs => do
      let (name, rest) ← typedText cs
      return ({ d with name := some name }, rest)⟩,
   ⟨["type"], fun d cs => do
      let (type, rest) ← typedConstant FieldType.ofName? cs
      return ({ d with type := some type }, rest)⟩,
   ⟨["filterable"], fun d cs => do
      let (filterable, rest) ← typedFlag cs
      return ({ d with filterable := some filterable }, rest)⟩,
   ⟨["allowed_operators", "allowedOperators"], fun d cs => do
      let (ops, rest) ← typedOption (typedList (typedConstant Operator.ofName?)) cs
      return ({ d with allowedOperators := ops }, rest)⟩,
   ⟨["enum_values", "enumValues"], fun d cs => do
      let (values, rest) ← typedOption (typedList typedText) cs
      return ({ d with enumValues := values }, rest)⟩]

end FieldDraft

def typedField : Typed Field := fun cs => do
  let (draft, rest) ← typedStructure FieldDraft.slots {} cs
  return (← orMismatched draft.finish?, rest)

/-- The components of a schema in declaration order. -/
def Schema.slots : List (Slot (Option String × List Field)) :=
  [⟨["entity"], fun (_, fields) cs => do
      let (entity, rest) ← typedOption typedText cs
      return ((entity, fields), rest)⟩,
   ⟨["fields"], fun (entity, _) cs => do
      let (fields, rest) ← typedList typedField cs
      return ((entity, fields), rest)⟩]

/-- A schema whose fields have been checked. -/
def typedSchema : Typed Schema := fun cs => do
  let ((entity, fields), rest) ← typedStructure Schema.slots (none, []) cs
  return (← orMismatched (Schema.define entity fields).toOption, rest)

def Schema.ofJson (text : String) : Except TextFault Schema :=
  typedWhole typedSchema text

end SchemaFilter
