import SchemaFilter.Fault
import SchemaFilter.Schema.Suggest

/-!
# Diagnostics

A diagnostic is a fault as it is shown to a user: with a hint where a name that nobody declared is
near to one that may be used.
-/

namespace SchemaFilter

structure Diagnostic where
  path : String
  message : String
  /-- The name that may have been meant. -/
  hint : Option String
deriving DecidableEq, Repr, Inhabited

namespace Schema

/-- The name that may have been meant in a fault. -/
def hint (s : Schema) (f : Fault) : Option String :=
  f.unknownField.bind s.suggest

def diagnose (s : Schema) (f : Fault) : Diagnostic :=
  ⟨f.path, f.message, s.hint f⟩

end Schema

end SchemaFilter
