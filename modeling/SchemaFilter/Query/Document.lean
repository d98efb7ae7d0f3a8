import SchemaFilter.Pattern.Escape
import SchemaFilter.Query.Operand

/-!
# Query documents

A query document is an object. Under the name of a field it holds a value that the field has to
equal, or an object of operators; under `$and` and `$or` it holds lists of documents. The empty
document matches everything.

`Filter.document` compiles a filter. An operator on texts becomes a pattern that ignores case.
-/

namespace SchemaFilter

/-- A query document. -/
structure Document where
  members : Members
deriving Inhabited

namespace Document

/-- The document that matches everything. -/
def empty : Document := ⟨[]⟩

def isEmpty (d : Document) : Bool := d.members.isEmpty

/-- A document as a value. -/
def toValue (d : Document) : Value := .object d.members

def ofValue : Value → Except QueryError Document
  | .object members => .ok ⟨members⟩
  | v => .error (.malformed (.noQuery v))

end Document

namespace Condition

def single (key : String) (operand : Value) : Value :=
  .object [(key, operand)]

/-- The operators of a pattern that ignores case. -/
def ignoringCase (pattern : List Char) : Value :=
  .object [("$options", .string "i"), ("$regex", .string (String.ofList pattern))]

/-- What a condition demands of its field. -/
def demand (c : Condition) : Except QueryError Value :=
  match c.operator with
  | .eq => c.value
  | .neq => return single "$ne" (← c.value)
  | .gt => return single "$gt" (← c.value)
  | .lt => return single "$lt" (← c.value)
  | .gte => return single "$gte" (← c.value)
  | .lte => return single "$lte" (← c.value)
  | .isIn => return single "$in" (.array (← c.values))
  | .between => do
    let (low, high) ← c.bounds
    return .object [("$gte", low), ("$lte", high)]
  | .contains => return ignoringCase (Pattern.escape (← c.text).toList)
  | .startsWith => return ignoringCase ('^' :: Pattern.escape (← c.text).toList)
  | .endsWith => return ignoringCase (Pattern.escape (← c.text).toList ++ ['$'])
  | .isNull => return .null
  | .isNotNull => return single "$ne" .null

end Condition

namespace Filter

mutual

/-- The members of the document of a filter. -/
def documentMembers : Filter → Except QueryError Members
  | condition c => return [(c.field, ← c.demand)]
  | group conjuncts disjuncts => do
    let first ← documentBranch "$and" conjuncts
    let second ← documentBranch "$or" disjuncts
    return first ++ second

def documentBranch (key : String) : Option (List Filter) → Except QueryError Members
  | none => return []
  | some children => return [(key, .array (← documentList children))]

def documentList : List Filter → Except QueryError (List Value)
  | [] => return []
  | child :: rest => do
    let first ← documentMembers child
    let others ← documentList rest
    return .object first :: others

end

/-- The document of a filter. No filter selects everything. -/
def document : Option Filter → Except QueryError Document
  | none => return .empty
  | some f => return ⟨← f.documentMembers⟩

end Filter

end SchemaFilter
