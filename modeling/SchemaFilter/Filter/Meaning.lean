import SchemaFilter.Filter.Basic
import SchemaFilter.Text.Folded
import SchemaFilter.Value.Order

/-!
# What a filter means

`Filter.holds` says directly, on the tree, whether a filter selects a record. A condition tests the
value of its field, which is null if the record does not have it; values that are not ordered are
neither below nor above each other, and only texts begin, end or contain. Of a group all conjuncts
have to hold and, if there are disjuncts, at least one of them.

A condition whose operand does not go with its operator holds of nothing.
-/

namespace SchemaFilter

namespace Value

def atLeast (a b : Value) : Bool :=
  (a.order? b).any (· != .lt)

def atMost (a b : Value) : Bool :=
  (a.order? b).any (· != .gt)

/-- Whether a value is a text that stands in a relation to the text of another value. -/
def textTest (test : (part text : List Char) → Bool) (actual operand : Value) : Bool :=
  match actual.string?, operand.scalarText? with
  | some text, some part => test part.toList text.toList
  | _, _ => false

end Value

namespace Operator

def holds (op : Operator) (actual operand : Value) : Bool :=
  match op with
  | eq => actual.equal operand
  | neq => !actual.equal operand
  | gt => actual.order? operand == some .gt
  | lt => actual.order? operand == some .lt
  | gte => actual.atLeast operand
  | lte => actual.atMost operand
  | isIn => (operand.items?.getD []).any actual.equal
  | between =>
    match operand.items? with
    | some [low, high] => actual.atLeast low && actual.atMost high
    | _ => false
  | contains => Value.textTest Text.containsFolded actual operand
  | startsWith => Value.textTest Text.beginsFolded actual operand
  | endsWith => Value.textTest Text.endsFolded actual operand
  | isNull => actual.isNull
  | isNotNull => !actual.isNull

end Operator

/-- Whether a condition holds of a record. Only the operators that take no value need no operand. -/
def Condition.holds (c : Condition) (record : Value) : Bool :=
  match c.operand with
  | some operand => c.operator.holds (record.field c.field) operand
  | none => !c.operator.takesValue && c.operator.holds (record.field c.field) .null

namespace Filter

mutual

/-- Whether a filter holds of a record. -/
def holds (record : Value) : Filter → Bool
  | condition c => c.holds record
  | group conjuncts disjuncts =>
      branchHolds record true conjuncts && branchHolds record false disjuncts

/-- Whether a branch holds: all of its filters or some of them. A branch that is not set holds. -/
def branchHolds (record : Value) (conjunction : Bool) : Option (List Filter) → Bool
  | none => true
  | some children => if conjunction then allHold record children else someHolds record children

def allHold (record : Value) : List Filter → Bool
  | [] => true
  | child :: rest => holds record child && allHold record rest

def someHolds (record : Value) : List Filter → Bool
  | [] => false
  | child :: rest => holds record child || someHolds record rest

end

@[simp] theorem allHold_iff {record : Value} {children : List Filter} :
    allHold record children = true ↔ ∀ child ∈ children, child.holds record = true := by
  induction children with
  | nil => simp [allHold]
  | cons child rest ih => simp [allHold, ih]

@[simp] theorem someHolds_iff {record : Value} {children : List Filter} :
    someHolds record children = true ↔ ∃ child ∈ children, child.holds record = true := by
  induction children with
  | nil => simp [someHolds]
  | cons child rest ih => simp [someHolds, ih]

@[simp] theorem holds_all_iff {record : Value} {children : List Filter} :
    (all children).holds record = true ↔ ∀ child ∈ children, child.holds record = true := by
  simp [all, holds, branchHolds]

@[simp] theorem holds_any_iff {record : Value} {children : List Filter} :
    (any children).holds record = true ↔ ∃ child ∈ children, child.holds record = true := by
  simp [any, holds, branchHolds]

end Filter

/-- Whether a record is selected. No filter selects every record. -/
def Value.isSelectedBy (record : Value) : Option Filter → Bool
  | none => true
  | some filter => filter.holds record

end SchemaFilter
