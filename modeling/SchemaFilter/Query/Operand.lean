import SchemaFilter.Filter.Basic
import SchemaFilter.Query.Error

/-!
# Operands

What the operators of conditions need of their operands. Each reader gives the operand in the shape
that its operators use, or says what was expected.
-/

namespace SchemaFilter.Condition

def expected (c : Condition) (what : Expectation) : QueryError :=
  .invalidOperand c.field c.operator what

/-- The operand, which has to be there. -/
def value (c : Condition) : Except QueryError Value :=
  match c.operand with
  | some v => .ok v
  | none => .error (c.expected .value)

def values (c : Condition) : Except QueryError (List Value) :=
  match c.operand with
  | some (.array items) => .ok items
  | _ => .error (c.expected .list)

def bounds (c : Condition) : Except QueryError (Value × Value) := do
  match ← c.values with
  | [low, high] => .ok (low, high)
  | _ => .error (c.expected .pair)

/-- The text of a scalar. -/
def text (c : Condition) : Except QueryError String := do
  match (← c.value).scalarText? with
  | some s => .ok s
  | none => .error (c.expected .scalar)

end SchemaFilter.Condition
