/-!
# Operators

The thirteen comparison operators of filter conditions and their names.
-/

namespace SchemaFilter

/-- A comparison operator. -/
inductive Operator where
  | eq
  | neq
  | gt
  | lt
  | gte
  | lte
  | isIn
  | between
  | contains
  | startsWith
  | endsWith
  | isNull
  | isNotNull
deriving DecidableEq, Repr, Inhabited

namespace Operator

/-- Every operator, in declaration order. -/
def all : List Operator :=
  [eq, neq, gt, lt, gte, lte, isIn, between, contains, startsWith, endsWith, isNull, isNotNull]

def name : Operator → String
  | eq => "eq"
  | neq => "neq"
  | gt => "gt"
  | lt => "lt"
  | gte => "gte"
  | lte => "lte"
  | isIn => "in"
  | between => "between"
  | contains => "contains"
  | startsWith => "starts_with"
  | endsWith => "ends_with"
  | isNull => "is_null"
  | isNotNull => "is_not_null"

/-- Whether a condition with this operator carries an operand. -/
def takesValue : Operator → Bool
  | isNull => false
  | isNotNull => false
  | _ => true

def ofName? (name : String) : Option Operator :=
  all.find? (·.name == name)

theorem mem_all (op : Operator) : op ∈ all := by
  cases op <;> decide

@[simp] theorem ofName?_name (op : Operator) : ofName? op.name = some op := by
  cases op <;> rfl

theorem name_of_ofName? {name : String} {op : Operator} (h : ofName? name = some op) :
    op.name = name := by
  simpa using List.find?_some h

end Operator

def unknownOperatorMessage (name : String) : String :=
  "Unknown operator \"" ++ name ++ "\""

end SchemaFilter
