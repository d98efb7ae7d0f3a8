import SchemaFilter.Command.Error
import SchemaFilter.Report.Filter

/-!
# Command failures

What is said when a command fails, for reading or as JSON. An invalid filter is reported with all of
its diagnostics.
-/

namespace SchemaFilter.CommandError

open Json (Layout)

/-- The members of a failure: its code, the diagnostics of an invalid filter, and its message. -/
def members (e : CommandError) : List (String × Layout) :=
  [("code", .string e.code)] ++
    (match e with
    | .invalidFilter ds => [("errors", .array (ds.map Report.diagnosticLayout))]
    | _ => []) ++
    [("message", .string e.message)]

def layout (e : CommandError) : Layout :=
  .object [("error", .object e.members)]

/-- A failure for reading, with the diagnostics of an invalid filter below it. -/
def text (colored : Bool) (e : CommandError) : String :=
  "Error: " ++ e.message ++ "\n" ++
    match e with
    | .invalidFilter ds => Report.diagnosticsText colored ds
    | _ => ""

end SchemaFilter.CommandError
