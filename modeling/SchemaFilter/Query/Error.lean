import SchemaFilter.Json.Printer
import SchemaFilter.Operator
import SchemaFilter.Text.Quoted

/-!
# Query errors

Why a filter cannot be compiled, or a query document not evaluated. A filter that its schema accepts
compiles, and evaluating what it compiles to does not fail; these errors are for filters that were
not checked and documents that were written by hand.
-/

namespace SchemaFilter

inductive Malformation where
  /-- The query as a whole is no object. -/
  | noQuery (value : Value)
  /-- An entry of a list of documents is no object. -/
  | noDocument (value : Value)
  /-- The operand of a key is no array. -/
  | noArray (key : String)
  | optionsWithoutPattern
  | patternNotText
  | optionsNotText
  | unsupportedOption (c : Char)
deriving Repr

/-- What an operator expects of its operand. -/
inductive Expectation where
  | value
  | list
  | pair
  | scalar
deriving DecidableEq, Repr

/-- Why a filter cannot be compiled or a query not evaluated. -/
inductive QueryError where
  | unknownTarget (name : String)
  | unsupportedOperator (key : String)
  | malformed (what : Malformation)
  | invalidPattern (pattern : String)
  | invalidOperand (field : String) (operator : Operator) (expected : Expectation)
deriving Repr

def Malformation.message : Malformation → String
  | noQuery value => "query must be an object, got " ++ Json.print value
  | noDocument value => "expected a query document, got " ++ Json.print value
  | noArray key => key ++ " must be an array"
  | optionsWithoutPattern => "$options requires $regex"
  | patternNotText => "$regex must be a string"
  | optionsNotText => "$options must be a string"
  | unsupportedOption c => "unsupported $options flag '" ++ String.singleton c ++ "'"

def Expectation.message : Expectation → String
  | value => "expected a value"
  | list => "expected an array of values"
  | pair => "expected an array of exactly 2 values"
  | scalar => "expected a scalar value"

/-- What is said of an error. What is wrong with a pattern is left open after the colon. -/
def QueryError.message : QueryError → String
  | unknownTarget name => "unknown query target: " ++ name ++ " (expected one of: mongo, sql)"
  | unsupportedOperator key => "unsupported operator in compiled query: " ++ key
  | malformed what => "malformed compiled query: " ++ what.message
  | invalidPattern pattern => "invalid regular expression " ++ Text.quoted pattern ++ ": "
  | invalidOperand field operator expected =>
    "cannot compile operator \"" ++ operator.name ++ "\" on field \"" ++ field ++ "\": " ++
      expected.message

end SchemaFilter
