import SchemaFilter.Config.Basic
import SchemaFilter.Diagnostic
import SchemaFilter.Query.Error
import SchemaFilter.Records
import SchemaFilter.Repository
import SchemaFilter.Schema.Format

/-!
# Command errors

Why a command fails, with the code and the exit status that tell it to a calling program. Where the
cause lies in the text of a file, the message ends in a colon and leaves open what is wrong there.
-/

namespace SchemaFilter

inductive StoreError where
  | unreadable (path : String) (isMissing : Bool)
  | unsupportedFormat (path : String)
  | invalidJson (path : String)
  | invalidToml (path : String)
  | invalidRecords (path : String) (error : RecordsError)
deriving DecidableEq, Repr

inductive ConfigError where
  | noFolder
  | unreadable
  | unparsable
  | folderNotMade
  | notWritten
  | setting (e : SettingError)
  /-- The target in the configuration does not exist. -/
  | target (name : String)
  | noSchema
  | noRecords
deriving DecidableEq, Repr

inductive CommandError where
  | invalidFilter (diagnostics : List Diagnostic)
  | query (e : QueryError)
  | store (e : StoreError)
  | config (e : ConfigError)
  /-- The file of an argument cannot be read. -/
  | unreadableArgument
  /-- An argument is no JSON. -/
  | invalidArgument
deriving Repr

def StoreError.message : StoreError → String
  | unreadable path _ => "failed to read '" ++ path ++ "': "
  | unsupportedFormat path =>
    "unsupported schema format '" ++ path ++ "' (expected a .toml or .json file)"
  | invalidJson path => "invalid JSON in '" ++ path ++ "': "
  | invalidToml path => "invalid TOML in '" ++ path ++ "': "
  | invalidRecords path e => "invalid records file '" ++ path ++ "': " ++ e.message

def ConfigError.message : ConfigError → String
  | noFolder => "Could not determine config directory"
  | unreadable => "Failed to read config: "
  | unparsable => "Failed to parse config: "
  | folderNotMade => "Failed to create config directory: "
  | notWritten => "Failed to write config: "
  | setting e => e.message
  | target name => "invalid target in config: " ++ (QueryError.unknownTarget name).message
  | noSchema => "no schema file given; pass --schema or run 'sv config set schema <path>'"
  | noRecords => "no records file given; pass --records or run 'sv config set records <path>'"

namespace CommandError

def message : CommandError → String
  | invalidFilter ds => "filter is invalid (" ++ toString ds.length ++ " error(s))"
  | query e => "engine error: " ++ e.message
  | store e => "store error: " ++ e.message
  | config e => "configuration error: " ++ e.message
  | unreadableArgument => "I/O error: "
  | invalidArgument => "serialization error: "

def code : CommandError → String
  | invalidFilter _ => "VALIDATION_ERROR"
  | query _ => "ENGINE_ERROR"
  | store _ => "STORE_ERROR"
  | config _ => "CONFIG_ERROR"
  | unreadableArgument => "IO_ERROR"
  | invalidArgument => "JSON_ERROR"

/-- The exit status of a failure: 1 for bad input, 2 for a query that cannot be evaluated, 3 for
files that are not there, 5 for a bad setup. -/
def exitStatus : CommandError → Nat
  | invalidFilter _ => 1
  | query (.unknownTarget _) => 5
  | query _ => 2
  | store (.unreadable _ true) => 3
  | store _ => 5
  | config _ => 5
  | unreadableArgument => 3
  | invalidArgument => 1

end CommandError

end SchemaFilter
