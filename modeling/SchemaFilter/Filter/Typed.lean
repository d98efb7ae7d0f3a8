import SchemaFilter.Filter.Basic
import SchemaFilter.Schema.Definition

/-!
# Filters as plain data

`Filter.ofValue?` reads a filter the way other data are read: the first misfit ends it and no path
is reported. It admits a few spellings that `Filter.decode` does not, above all nodes written as
lists with the kind in front.

The parts of a node are read after its kind, from a copy in which an operator may also be an object
with an empty object under its name, and a kind a number.
-/

namespace SchemaFilter

/-- Values inside a node. -/
def Value.nestedView : View Value :=
  { Value.view with
    constant? := fun v => match v with
      | .object [(key, .object [])] => some key
      | v => Value.view.constant? v }

/-- The keys of a condition in declaration order. -/
def Condition.keys : List (List String) :=
  [["field"], ["operator"], ["value"]]

def Condition.ofComponents? (view : View Value) : List (Option Value) → Option Condition
  | [field, op, operand] => do
    return {
      field := ← View.required view.text? field
      operator := ← View.required view.operator? op
      operand := ← view.optional some operand }
  | _ => none

def Condition.ofValue? (v : Value) : Option Condition := do
  Condition.ofComponents? Value.view (← Value.view.components Condition.keys v)

namespace Filter

inductive Kind where
  | condition
  | group
deriving DecidableEq, Repr

/-- The kind that a value names. Inside a node a number will do. -/
def kind? (nested : Bool) : Value → Option Kind
  | .string "condition" => some .condition
  | .string "group" => some .group
  | .number (.integer 0) => if nested then some .condition else none
  | .number (.integer 1) => if nested then some .group else none
  | _ => none

mutual

def node? (nested : Bool) : Value → Option Filter
  | .object members => do
    match ← (members.lookup "kind").bind (kind? nested) with
    | .condition =>
      let c ← Value.nestedView.components Condition.keys (.object members)
      return .condition (← Condition.ofComponents? Value.nestedView c)
    | .group => return .group (← branch? true "and" members) (← branch? true "or" members)
  | .array (kind :: rest) => do
    match ← kind? nested kind with
    | .condition =>
      let c ← Value.nestedView.components Condition.keys (.array rest)
      return .condition (← Condition.ofComponents? Value.nestedView c)
    | .group => listedGroup? true rest
  | _ => none

def branch? (nested : Bool) (key : String) : List (String × Value) → Option (Option (List Filter))
  | [] => some none
  | (k, v) :: rest => if k = key then children? nested v else branch? nested key rest

/-- A list of nodes, or null for none. -/
def children? (nested : Bool) : Value → Option (Option (List Filter))
  | .null => some none
  | .array items => (nodes? nested items).map some
  | _ => none

def nodes? (nested : Bool) : List Value → Option (List Filter)
  | [] => some []
  | v :: vs => do return (← node? nested v) :: (← nodes? nested vs)

/-- A group whose lists are given in order. -/
def listedGroup? (nested : Bool) : List Value → Option Filter
  | [] => some (.group none none)
  | [conjuncts] => do return .group (← children? nested conjuncts) none
  | [conjuncts, disjuncts] => do
    return .group (← children? nested conjuncts) (← children? nested disjuncts)
  | _ => none

end

def ofValue? (v : Value) : Option Filter :=
  node? false v

/-- A group read from a value without a kind. -/
def groupOfValue? : Value → Option Filter
  | .object members => do
    return .group (← branch? false "and" members) (← branch? false "or" members)
  | .array items => listedGroup? false items
  | _ => none

end Filter

end SchemaFilter
