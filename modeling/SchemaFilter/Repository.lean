import SchemaFilter.Filter.Decode
import SchemaFilter.Query.Evaluate
import SchemaFilter.Query.Target

/-!
# Repositories

A repository holds records and the schema that filters on them are checked against. Every way to use
a filter checks it first, so nothing of a rejected filter is ever compiled or evaluated.
-/

namespace SchemaFilter

/-- A schema with records. -/
structure Repository where
  schema : Schema
  records : List Value
deriving Inhabited

/-- Why a repository gives no answer. -/
inductive RepositoryError where
  | invalidFilter (faults : List Fault)
  | query (e : QueryError)
deriving Repr

def invalidFilterMessage (faults : List Fault) : String :=
  "filter is invalid (" ++ toString faults.length ++ " error(s))"

def RepositoryError.message : RepositoryError → String
  | invalidFilter faults => invalidFilterMessage faults
  | query e => e.message

namespace Repository

def size (r : Repository) : Nat :=
  r.records.length

def isEmpty (r : Repository) : Bool :=
  r.records.isEmpty

/-- Rejects a filter that the schema does not accept. -/
def check (r : Repository) (filter : Option Filter) : Except RepositoryError Unit :=
  match r.schema.faults filter with
  | [] => .ok ()
  | faults => .error (.invalidFilter faults)

/-- The matching records, each with its index. -/
def find (r : Repository) (filter : Option Filter) :
    Except RepositoryError (List (Value × Nat)) := do
  r.check filter
  let d ← (Filter.document filter).mapError .query
  ((Evaluator.of d).select r.records).mapError .query

/-- The matching records of a filter that is still a value. -/
def findValue (r : Repository) (filter : Value) :
    Except RepositoryError (List (Value × Nat)) := do
  r.find (← (r.schema.validateValue filter).mapError .invalidFilter)

def count (r : Repository) (filter : Option Filter) : Except RepositoryError Nat := do
  return (← r.find filter).length

def clause (r : Repository) (filter : Option Filter) : Except RepositoryError Clause := do
  r.check filter
  (Filter.clause filter).mapError .query

def compile (r : Repository) (filter : Option Filter) (target : Target) :
    Except RepositoryError Compiled := do
  r.check filter
  (target.compile filter).mapError .query

end Repository

end SchemaFilter
