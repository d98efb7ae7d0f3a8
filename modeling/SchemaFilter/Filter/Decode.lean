import SchemaFilter.Filter.Validate

/-!
# Reading filters

`Filter.decode` reads a filter from a value and reports every structural fault at its path. A
malformed node is dropped, its sound siblings are still read, and a branch that is no array counts
as absent.

`Schema.validateValue` checks every condition that can be read against a schema in the same pass, so
that faults of both kinds come in tree order.
-/

namespace SchemaFilter

/-- What has been read: the faults in tree order, and the result unless it was dropped. -/
structure Decoded (α : Type) where
  faults : List Fault
  result : α
deriving Inhabited

namespace Filter

/-- How a condition that has been read is inspected. -/
abbrev Inspection := Condition → String → List Fault

def stringMember? (members : Members) (key : String) : Option String :=
  (members.get? key).bind Value.string?

def decodeField (path : String) (members : Members) : Decoded (Option String) :=
  match stringMember? members "field" with
  | some field => ⟨[], some field⟩
  | none =>
    ⟨[{ path := Fault.keyPath path "field", message := "\"field\" must be a string" }], none⟩

def decodeOperator (path : String) (members : Members) : Decoded (Option Operator) :=
  let fault (message : String) : Decoded (Option Operator) :=
    ⟨[{ path := Fault.keyPath path "operator", message }], none⟩
  match stringMember? members "operator" with
  | some name =>
    match Operator.ofName? name with
    | some op => ⟨[], some op⟩
    | none => fault (unknownOperatorMessage name)
  | none => fault "\"operator\" must be a string"

/-- A condition, inspected if both its field and its operator can be read. -/
def decodeCondition (inspect : Inspection) (path : String) (members : Members) :
    Decoded (Option Filter) :=
  let field := decodeField path members
  let op := decodeOperator path members
  match field.result, op.result with
  | some field, some op =>
    let c := Condition.of field op (members.get? "value")
    ⟨inspect c path, some (.condition c)⟩
  | _, _ => ⟨field.faults ++ op.faults, none⟩

mutual

def decodeNode (inspect : Inspection) (path : String) : Value → Decoded (Option Filter)
  | .object members =>
    match stringMember? members "kind" with
    | some "condition" => decodeCondition inspect path members
    | some "group" =>
      let conjuncts := decodeBranch inspect path "and" members
      let disjuncts := decodeBranch inspect path "or" members
      ⟨conjuncts.faults ++ disjuncts.faults, some (.group conjuncts.result disjuncts.result)⟩
    | some other =>
      ⟨[{ path := Fault.keyPath path "kind"
          message := "Unknown node kind \"" ++ other ++
            "\" (expected \"condition\" or \"group\")" }], none⟩
    | none =>
      ⟨[{ path := Fault.keyPath path "kind"
          message := "Filter node requires a \"kind\" of \"condition\" or \"group\"" }], none⟩
  | _ => ⟨[{ path, message := "Filter node must be an object" }], none⟩

/-- The children of a group under a key. A missing or null branch is absent. -/
def decodeBranch (inspect : Inspection) (path key : String) :
    List (String × Value) → Decoded (Option (List Filter))
  | [] => ⟨[], none⟩
  | (k, v) :: rest =>
    if k = key then
      match v with
      | .null => ⟨[], none⟩
      | .array items =>
        let children := decodeItems inspect (Fault.keyPath path key) 0 items
        ⟨children.faults, some children.result⟩
      | _ =>
        ⟨[{ path := Fault.keyPath path key
            message := "\"" ++ key ++ "\" must be an array" }], none⟩
    else decodeBranch inspect path key rest

/-- The nodes of a list, the first of which has the given index. -/
def decodeItems (inspect : Inspection) (path : String) (index : Nat) :
    List Value → Decoded (List Filter)
  | [] => ⟨[], []⟩
  | v :: vs =>
    let child := decodeNode inspect (Fault.indexPath path index) v
    let others := decodeItems inspect path (index + 1) vs
    ⟨child.faults ++ others.faults, child.result.toList ++ others.result⟩

end

/-- Reads a filter, inspecting every condition. Null is the absent filter. -/
def decodeInspected (inspect : Inspection) (v : Value) : Except (List Fault) (Option Filter) :=
  if v.isNull then .ok none
  else
    let node := decodeNode inspect Fault.rootPath v
    if node.faults.isEmpty then .ok node.result else .error node.faults

/-- Reads a filter. -/
def decode (v : Value) : Except (List Fault) (Option Filter) :=
  decodeInspected (fun _ _ => []) v

end Filter

/-- Reads a filter and checks its conditions in one pass. -/
def Schema.validateValue (s : Schema) (v : Value) : Except (List Fault) (Option Filter) :=
  Filter.decodeInspected s.conditionFaults v

end SchemaFilter
