import SchemaFilter.Operator
import SchemaFilter.Value.Basic

/-!
# Filter trees

A filter is a condition, or a group of filters of which all, at least one, or both in two lists,
have to hold. A group with neither list holds of everything.

As a value, a filter carries its kind under the key `kind`; an operand that is null is the same as
none and is not written.
-/

namespace SchemaFilter

/-- A test of one field with one operator. -/
structure Condition where
  field : String
  operator : Operator
  operand : Option Value
deriving Repr, Inhabited

/-- A condition; an operand that is null counts as absent. -/
def Condition.of (field : String) (operator : Operator) (operand : Option Value) : Condition :=
  ⟨field, operator, operand.filter (!·.isNull)⟩

inductive Filter where
  | condition (c : Condition)
  | group (conjuncts disjuncts : Option (List Filter))
deriving Inhabited

namespace Filter

/-- A group of which everything has to hold. -/
def all (children : List Filter) : Filter :=
  group (some children) none

/-- A group of which something has to hold. -/
def any (children : List Filter) : Filter :=
  group none (some children)

/-- Whether a group with these lists has none. -/
def isEmptyGroup (conjuncts disjuncts : Option (List Filter)) : Bool :=
  conjuncts.isNone && disjuncts.isNone

def isCondition : Filter → Bool
  | condition _ => true
  | group .. => false

mutual

def conditionCount : Filter → Nat
  | condition _ => 1
  | group conjuncts disjuncts => branchCount conjuncts + branchCount disjuncts

def branchCount : Option (List Filter) → Nat
  | none => 0
  | some children => listCount children

def listCount : List Filter → Nat
  | [] => 0
  | child :: rest => conditionCount child + listCount rest

end

end Filter

/-- The members of a condition, without its kind in front of the operator. -/
def Condition.members (c : Condition) (kind : List (String × Value)) : Members :=
  ("field", .string c.field) :: kind ++ ("operator", .string c.operator.name) ::
    match c.operand with
    | some v => [("value", v)]
    | none => []

def Condition.toValue (c : Condition) : Value :=
  .object (c.members [])

namespace Filter

mutual

def toValue : Filter → Value
  | condition c => .object (c.members [("kind", .string "condition")])
  | group conjuncts disjuncts =>
    .object (branchMembers "and" conjuncts ++ ("kind", .string "group") ::
      branchMembers "or" disjuncts)

/-- The member of a branch that is set. -/
def branchMembers (key : String) : Option (List Filter) → Members
  | none => []
  | some children => [(key, .array (toValues children))]

def toValues : List Filter → List Value
  | [] => []
  | child :: rest => toValue child :: toValues rest

end

/-- The two lists of a group as a value. -/
def groupValue (conjuncts disjuncts : Option (List Filter)) : Value :=
  .object (branchMembers "and" conjuncts ++ branchMembers "or" disjuncts)

end Filter

end SchemaFilter
