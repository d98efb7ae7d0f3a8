import SchemaFilter.Calendar
import SchemaFilter.Fault
import SchemaFilter.Filter.Basic
import SchemaFilter.Uuid

/-!
# Validation

`Filter.faults` lists every fault of a filter under a schema, depth first and `and` before `or`. A
condition on an undeclared or hidden field has that single fault. Any other condition is checked for
its operator, for the shape of its operand and for the type of every element.
-/

namespace SchemaFilter

namespace Field

/-- Why a value does not belong to a field's type, if it does not. -/
def typeFault? (f : Field) (v : Value) : Option String :=
  let must (what : String) : Option String := some ("Field \"" ++ f.name ++ "\" must be " ++ what)
  match f.type with
  | .string => if v.string?.isSome then none else must "a string"
  | .number =>
    match v with
    | .number _ => none
    | _ => must "a number"
  | .boolean =>
    match v with
    | .bool _ => none
    | _ => must "a boolean"
  | .date =>
    match v.string? with
    | some s => if (Calendar.parse? s).isSome then none else must "a valid date"
    | none => must "a valid date"
  | .uuid =>
    match v.string? with
    | some s => if Uuid.accepts s then none else must "a valid UUID"
    | none => must "a valid UUID"
  | .enum =>
    match v.string? with
    | none => must "a string"
    | some s =>
      match f.enumValues with
      | none => none
      | some allowed =>
        if allowed.contains s then none else must ("one of: " ++ ", ".intercalate allowed)

def elementFaults (f : Field) (path : String) (v : Value) : List Fault :=
  match f.typeFault? v with
  | some message => [{ path, message }]
  | none => []

/-- The faults of the items of a list, the first of which has the given index. -/
def itemFaults (f : Field) (path : String) (index : Nat) : List Value → List Fault
  | [] => []
  | v :: vs => f.elementFaults (Fault.indexPath path index) v ++ f.itemFaults path (index + 1) vs

/-- The faults of an operand at a path, by what the operator expects. -/
def operandFaults (f : Field) (op : Operator) (operand : Option Value) (path : String) :
    List Fault :=
  match op with
  | .isNull | .isNotNull =>
    if operand.isSome then
      [{ path, message := "Operator \"" ++ op.name ++ "\" does not take a value" }]
    else []
  | .between =>
    match operand.bind Value.items? with
    | some [low, high] => f.itemFaults path 0 [low, high]
    | _ => [{ path, message := "Operator \"between\" requires an array of exactly 2 values" }]
  | .isIn =>
    match operand.bind Value.items? with
    | some items => f.itemFaults path 0 items
    | none => [{ path, message := "Operator \"in\" requires an array of values" }]
  | _ =>
    match operand with
    | some v => f.elementFaults path v
    | none => [{ path, message := "Field \"" ++ f.name ++ "\" requires a value" }]

end Field

namespace Schema

/-- The faults of a condition at a path. -/
def conditionFaults (s : Schema) (c : Condition) (path : String) : List Fault :=
  match s.field? c.field with
  | none => [.undeclared (Fault.keyPath path "field") c.field]
  | some f =>
    if !f.filterable then
      [{ path := Fault.keyPath path "field"
         message := "Field \"" ++ c.field ++ "\" is not filterable" }]
    else
      (if f.permits c.operator then []
       else
        [{ path := Fault.keyPath path "operator"
           message := "Operator \"" ++ c.operator.name ++ "\" is not allowed for field \"" ++
            c.field ++ "\"" }]) ++
      f.operandFaults c.operator c.operand (Fault.keyPath path "value")

mutual

/-- The faults of a filter at a path. -/
def nodeFaults (s : Schema) (path : String) : Filter → List Fault
  | .condition c => s.conditionFaults c path
  | .group conjuncts disjuncts =>
    branchFaults s (Fault.keyPath path "and") conjuncts ++
      branchFaults s (Fault.keyPath path "or") disjuncts

def branchFaults (s : Schema) (path : String) : Option (List Filter) → List Fault
  | none => []
  | some children => listFaults s path 0 children

/-- The faults of a list of filters, the first of which has the given index. -/
def listFaults (s : Schema) (path : String) (index : Nat) : List Filter → List Fault
  | [] => []
  | child :: rest =>
    nodeFaults s (Fault.indexPath path index) child ++ listFaults s path (index + 1) rest

end

/-- The faults of a filter. An absent filter has none. -/
def faults (s : Schema) : Option Filter → List Fault
  | none => []
  | some filter => s.nodeFaults Fault.rootPath filter

def accepts (s : Schema) (filter : Option Filter) : Bool :=
  (s.faults filter).isEmpty

end Schema

end SchemaFilter
