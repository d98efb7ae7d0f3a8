import SchemaFilter.Json.Parser

/-!
# Record files

A record file is a JSON array of objects.
-/

namespace SchemaFilter

inductive RecordsError where
  | noJson
  | noArray
  | noObject (index : Nat)
deriving DecidableEq, Repr

/-- What is said of a JSON text that holds no records. -/
def RecordsError.message : RecordsError → String
  | noJson => ""
  | noArray => "expected a JSON array of objects"
  | noObject index => "record " ++ toString index ++ " is not an object"

def readRecords (text : String) : Except RecordsError (List Value) :=
  match Json.parse text with
  | some (.array items) =>
    match items.findIdx? fun v => v.members?.isNone with
    | some index => .error (.noObject index)
    | none => .ok items
  | some _ => .error .noArray
  | none => .error .noJson

end SchemaFilter
