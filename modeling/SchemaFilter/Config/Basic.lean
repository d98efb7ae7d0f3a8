import SchemaFilter.Json.Printer
import SchemaFilter.Query.Target
import SchemaFilter.Unicode.Lowercase

/-!
# Configuration

The settings that a user keeps in a file. `Config.set` changes one of them by its key, and refuses
unknown keys and values that do not fit.
-/

namespace SchemaFilter

/-- The settings of a user. -/
structure Config where
  schema : Option String := none
  records : Option String := none
  target : Option String := none
  color : Option Bool := none
  pretty : Option Bool := none
deriving DecidableEq, Repr, Inhabited

inductive ConfigKey where
  | schema
  | records
  | target
  | color
  | pretty
deriving DecidableEq, Repr

/-- Why a setting cannot be changed. -/
inductive SettingError where
  | unknownKey (key : String)
  | invalidTarget (value : String)
  | invalidFlag (value : String)
deriving DecidableEq, Repr

namespace ConfigKey

/-- Every key, in the order in which they are listed. -/
def all : List ConfigKey := [schema, records, target, color, pretty]

def name : ConfigKey → String
  | schema => "schema"
  | records => "records"
  | target => "target"
  | color => "output.color"
  | pretty => "output.pretty"

def ofName? (name : String) : Option ConfigKey :=
  all.find? (·.name == name)

end ConfigKey

def SettingError.message : SettingError → String
  | unknownKey key =>
    "Unknown config key '" ++ key ++ "'. Valid keys: " ++
      ", ".intercalate (ConfigKey.all.map (·.name))
  | invalidTarget value =>
    "Invalid target value '" ++ value ++ "'. Valid values: " ++
      ", ".intercalate (Target.all.map (·.name))
  | invalidFlag value =>
    "Invalid boolean value '" ++ value ++ "'. Use true/false, yes/no, 1/0, or on/off"

/-- The truth value that a word stands for, in either case of letters. -/
def readFlag (word : String) : Except SettingError Bool :=
  match String.ofList (Unicode.toLower word) with
  | "true" | "yes" | "1" | "on" => .ok true
  | "false" | "no" | "0" | "off" => .ok false
  | _ => .error (.invalidFlag word)

namespace Config

def version : Nat := 1

def setKey (c : Config) (key : ConfigKey) (value : String) : Except SettingError Config :=
  match key with
  | .schema => .ok { c with schema := some value }
  | .records => .ok { c with records := some value }
  | .target =>
    match Target.ofName value with
    | .ok _ => .ok { c with target := some value }
    | .error _ => .error (.invalidTarget value)
  | .color => do return { c with color := some (← readFlag value) }
  | .pretty => do return { c with pretty := some (← readFlag value) }

/-- Changes a setting given by its name. -/
def set (c : Config) (key value : String) : Except SettingError Config :=
  match ConfigKey.ofName? key with
  | some k => c.setKey k value
  | none => .error (.unknownKey key)

def toValue (c : Config) : Value :=
  let setting {α : Type} (key : String) (value : α → Value) (o : Option α) : Members :=
    match o with
    | some a => [(key, value a)]
    | none => []
  .ofPairs (
    [("version", .ofNat version),
      ("output",
        .ofPairs (setting "color" Value.bool c.color ++ setting "pretty" Value.bool c.pretty))] ++
    setting "schema" Value.string c.schema ++ setting "records" Value.string c.records ++
    setting "target" Value.string c.target)

end Config

end SchemaFilter
