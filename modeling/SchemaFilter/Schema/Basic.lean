import SchemaFilter.Operator
import SchemaFilter.Text.Blank

/-!
# Schemas

A schema lists the fields of an entity in declaration order. `Schema.ofFields` accepts a list of
fields if no name is blank or reserved, no name occurs twice and only enum fields list values;
otherwise it reports the fault of the first offending field.

A field permits the operators of its own list, or those of its type if it has no list.
-/

namespace SchemaFilter

/-- The declared type of a field. -/
inductive FieldType where
  | string
  | number
  | boolean
  | date
  | enum
  | uuid
deriving DecidableEq, Repr, Inhabited

namespace FieldType

/-- Every type, in declaration order. -/
def all : List FieldType :=
  [string, number, boolean, date, enum, uuid]

def name : FieldType → String
  | string => "string"
  | number => "number"
  | boolean => "boolean"
  | date => "date"
  | enum => "enum"
  | uuid => "uuid"

def ofName? (name : String) : Option FieldType :=
  all.find? (·.name == name)

@[simp] theorem ofName?_name (t : FieldType) : ofName? t.name = some t := by
  cases t <;> rfl

/-- The operators of a field that lists none. -/
def defaultOperators : FieldType → List Operator
  | string => [.eq, .neq, .contains, .startsWith, .endsWith, .isIn, .isNull, .isNotNull]
  | number => [.eq, .neq, .gt, .lt, .gte, .lte, .between, .isIn, .isNull, .isNotNull]
  | date => [.eq, .neq, .gt, .lt, .gte, .lte, .between, .isNull, .isNotNull]
  | boolean => [.eq, .neq, .isNull, .isNotNull]
  | enum => [.eq, .neq, .isIn, .isNull, .isNotNull]
  | uuid => [.eq, .neq, .isIn, .isNull, .isNotNull]

end FieldType

/-- The description of one field. -/
structure Field where
  name : String
  type : FieldType
  filterable : Bool := true
  /-- The operators permitted in place of those of the type. -/
  allowedOperators : Option (List Operator) := none
  /-- The permitted values of an enum field. -/
  enumValues : Option (List String) := none
deriving DecidableEq, Repr, Inhabited

namespace Field

/-- The operators that a field permits. -/
def operators (f : Field) : List Operator :=
  f.allowedOperators.getD f.type.defaultOperators

def permits (f : Field) (op : Operator) : Bool :=
  f.operators.contains op

end Field

/-- Why a list of fields is no schema. -/
inductive SchemaError where
  | duplicateField (name : String)
  | emptyFieldName
  | reservedFieldName (name : String)
  | unexpectedEnumValues (name : String) (type : FieldType)
deriving DecidableEq, Repr

namespace SchemaError

def message : SchemaError → String
  | duplicateField name => "duplicate field in schema: " ++ name
  | emptyFieldName => "schema field names must not be empty"
  | reservedFieldName name => "field name \"" ++ name ++ "\" must not start with '$'"
  | unexpectedEnumValues name type =>
    "field \"" ++ name ++ "\" declares enum values but has type " ++ type.name

end SchemaError

/-- Whether a name starts with the sign that query documents keep for operators. -/
def isReserved (name : String) : Bool :=
  match name.toList with
  | '$' :: _ => true
  | _ => false

/-- The fields of an entity. -/
structure Schema where
  entity : Option String
  fields : List Field
deriving DecidableEq, Repr, Inhabited

namespace Schema

/-- The fault of a field that follows the given names, if it has one. -/
def faultOf? (before : List String) (f : Field) : Option SchemaError :=
  if Text.isBlankText f.name then some .emptyFieldName
  else if isReserved f.name then some (.reservedFieldName f.name)
  else if before.contains f.name then some (.duplicateField f.name)
  else if f.enumValues.isSome && f.type != .enum then some (.unexpectedEnumValues f.name f.type)
  else none

/-- The first fault in a list of fields that follows the given names. -/
def firstFault? (before : List String) : List Field → Option SchemaError
  | [] => none
  | f :: fs =>
    match faultOf? before f with
    | some e => some e
    | none => firstFault? (before ++ [f.name]) fs

/-- The schema of a list of fields, or the fault of the first offending field. -/
def ofFields (fields : List Field) : Except SchemaError Schema :=
  match firstFault? [] fields with
  | some e => .error e
  | none => .ok ⟨none, fields⟩

def withEntity (s : Schema) (entity : String) : Schema :=
  { s with entity := some entity }

def field? (s : Schema) (name : String) : Option Field :=
  s.fields.find? (·.name == name)

theorem mem_fields_of_field? {s : Schema} {name : String} {f : Field}
    (h : s.field? name = some f) : f ∈ s.fields :=
  List.mem_of_find?_eq_some h

theorem name_of_field? {s : Schema} {name : String} {f : Field} (h : s.field? name = some f) :
    f.name = name := by
  simpa using List.find?_some h

theorem field?_eq_none {s : Schema} {name : String} :
    s.field? name = none ↔ ∀ f ∈ s.fields, f.name ≠ name := by
  simp [field?]

/-- The schema of a list of fields for an entity that may have a name. -/
def define (entity : Option String) (fields : List Field) : Except SchemaError Schema := do
  let s ← ofFields fields
  return { s with entity }

end Schema

end SchemaFilter
