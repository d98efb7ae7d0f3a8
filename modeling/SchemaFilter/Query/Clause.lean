import SchemaFilter.Query.Operand

/-!
# Clauses

A clause is the condition of an SQL query, with a question mark for every parameter. The parameters
are listed in the order of their question marks, and no operand ever gets into the text.

`Filter.clause` compiles a filter. The text of a filter is put together from the texts of its parts,
whereas parameters are bound one after the other while conditions are written. Lists of conditions
are put in parentheses, and so are the two branches of a group that has both.
-/

namespace SchemaFilter

/-- A condition with its parameters. -/
structure Clause where
  text : String
  parameters : List Value
deriving Inhabited

/-- Writing a part of a clause. The state is the list of the parameters bound so far. -/
abbrev Writing := StateT (List Value) (Except QueryError)

namespace Clause

/-- The text that holds for every row. -/
def always : String := "1=1"

/-- The text that holds for no row. -/
def never : String := "1=0"

/-- The number of question marks in the text. -/
def placeholderCount (c : Clause) : Nat :=
  c.text.toList.count '?'

def bindAll (values : List Value) : Writing Unit :=
  modify fun bound => bound ++ values

def comparing (field sign : String) (operand : Value) : Writing String := do
  bindAll [operand]
  return field ++ " " ++ sign ++ " ?"

/-- Membership in a list of parameters. In the empty list there is nothing. -/
def member (field : String) (values : List Value) : Writing String := do
  if values.isEmpty then return never
  bindAll values
  return field ++ " IN (" ++ ", ".intercalate (values.map fun _ => "?") ++ ")"

def between (field : String) (low high : Value) : Writing String := do
  bindAll [low]
  bindAll [high]
  return field ++ " BETWEEN ? AND ?"

/-- Texts joined by a word, in parentheses; without any there is a text of its own. -/
def joined (word none : String) (texts : List String) : String :=
  if texts.isEmpty then none else "(" ++ word.intercalate texts ++ ")"

def ofBranches : Option String → Option String → String
  | some conjuncts, some disjuncts => "(" ++ conjuncts ++ " AND " ++ disjuncts ++ ")"
  | some conjuncts, none => conjuncts
  | none, some disjuncts => disjuncts
  | none, none => always

end Clause

open Clause in
/-- Writes a condition. -/
def Condition.write (c : Condition) : Writing String := do
  match c.operator with
  | .eq => comparing c.field "=" (← c.value)
  | .neq => comparing c.field "<>" (← c.value)
  | .gt => comparing c.field ">" (← c.value)
  | .lt => comparing c.field "<" (← c.value)
  | .gte => comparing c.field ">=" (← c.value)
  | .lte => comparing c.field "<=" (← c.value)
  | .isIn => member c.field (← c.values)
  | .between =>
    let (low, high) ← c.bounds
    between c.field low high
  | .contains => comparing c.field "LIKE" (.string ("%" ++ (← c.text) ++ "%"))
  | .startsWith => comparing c.field "LIKE" (.string ((← c.text) ++ "%"))
  | .endsWith => comparing c.field "LIKE" (.string ("%" ++ (← c.text)))
  | .isNull => return c.field ++ " IS NULL"
  | .isNotNull => return c.field ++ " IS NOT NULL"

namespace Filter

mutual

/-- Writes a filter, its conjuncts first. -/
def writeNode : Filter → Writing String
  | condition c => c.write
  | group conjuncts disjuncts => do
    let first ← writeBranch " AND " Clause.always conjuncts
    let second ← writeBranch " OR " Clause.never disjuncts
    return Clause.ofBranches first second

def writeBranch (word none : String) : Option (List Filter) → Writing (Option String)
  | .none => return .none
  | some children => return some (Clause.joined word none (← writeList children))

def writeList : List Filter → Writing (List String)
  | [] => return []
  | child :: rest => do
    let first ← writeNode child
    let others ← writeList rest
    return first :: others

end

/-- The clause of a filter. No filter selects everything. -/
def clause : Option Filter → Except QueryError Clause
  | none => return ⟨Clause.always, []⟩
  | some f => do
    let (text, parameters) ← f.writeNode.run []
    return ⟨text, parameters⟩

end Filter

end SchemaFilter
