import SchemaFilter.Command.Arguments
import SchemaFilter.Command.Error
import SchemaFilter.Config.File
import SchemaFilter.Disk
import SchemaFilter.Report.Filter
import SchemaFilter.Report.Records
import SchemaFilter.Report.Schema

/-!
# Running commands

`Command.run` carries out an invocation on the files of a disk. A command reads the configuration
first; commands on data then find their files, from the options or from the configuration. What a
command prints, and the files it leaves, are its `Outcome`. No command but `config set` changes a
file.
-/

namespace SchemaFilter

open Json (Layout)

/-- The variables of the environment that commands look at. -/
structure Environment where
  config : Option String := none
  configHome : Option String := none
  home : Option String := none
  /-- The home folder of the account, for when no variable names one. -/
  accountHome : Option String := none
  schema : Option String := none
  records : Option String := none
deriving DecidableEq, Repr, Inhabited

namespace Environment

/-- The variables that stand in for options. -/
def options (e : Environment) : List (OptionName × String) :=
  (e.schema.toList.map (OptionName.schema, ·)) ++ (e.records.toList.map (OptionName.records, ·))

def join (folder name : String) : String :=
  match folder.toList.getLast? with
  | none => name
  | some '/' => folder ++ name
  | some _ => folder ++ "/" ++ name

def configPath (e : Environment) : Except ConfigError String :=
  match e.config, e.configHome with
  | some path, _ => .ok path
  | none, some folder => .ok (join (join folder "sv") "config.toml")
  | none, none =>
    match e.home.filter (· != "") <|> e.accountHome with
    | some home => .ok (join (join (join home ".config") "sv") "config.toml")
    | none => .error .noFolder

end Environment

structure Display where
  json : Bool
  colored : Bool
  quiet : Bool
  verbose : Bool
  pretty : Bool
deriving DecidableEq, Repr, Inhabited

/-- The data files and the target of a command. -/
structure Settings where
  schema : Option String
  records : Option String
  target : Target
deriving DecidableEq, Repr, Inhabited

/-- What a command does: the lines it prints on the way, what it prints in the end or why it fails,
and the disk it leaves. -/
structure Outcome where
  progress : String
  result : Except CommandError String
  disk : Disk

def Invocation.display (i : Invocation) (c : Config) : Display where
  json := i.json
  colored := !i.noColor && c.color.getD true
  quiet := i.quiet
  verbose := i.verbose
  pretty := c.pretty.getD true

def Invocation.settings (i : Invocation) (c : Config) : Except ConfigError Settings := do
  let target ←
    match c.target with
    | none => pure Target.mongo
    | some name =>
      match Target.ofName name with
      | .ok t => pure t
      | .error _ => .error (.target name)
  return ⟨i.schema <|> c.schema, i.records <|> c.records, target⟩

def Settings.schemaPath (s : Settings) : Except CommandError String :=
  match s.schema with
  | some path => .ok path
  | none => .error (.config .noSchema)

def Settings.recordsPath (s : Settings) : Except CommandError String :=
  match s.records with
  | some path => .ok path
  | none => .error (.config .noRecords)

/-- The texts of an action that may name a file. -/
def Action.arguments : Action → List String
  | .validate filter => [filter]
  | .compile filter _ => [filter]
  | .query filter _ _ => filter.toList
  | .eval text _ => [text]
  | _ => []

/-- The files that an invocation may read besides the configuration. -/
def Invocation.paths (i : Invocation) (c : Config) : List String :=
  (i.schema <|> c.schema).toList ++ (i.records <|> c.records).toList ++
    i.action.arguments.filterMap fun a =>
      match a.toList with
      | '@' :: path => some (String.ofList path)
      | _ => none

namespace Command

/-! ## Files -/

/-- The configuration, which is empty if there is no file. -/
def loadConfig (e : Environment) (d : Disk) : Except ConfigError Config := do
  let path ← e.configPath
  if !d.has path then return {}
  match d.read path with
  | .error _ => .error .unreadable
  | .ok text =>
    match Config.read? text with
    | some c => return c
    | none => .error .unparsable

def readFile (d : Disk) (path : String) : Except StoreError String :=
  (d.read path).mapError fun e => .unreadable path (e == .missing)

def loadSchema (d : Disk) (path : String) : Except StoreError Schema :=
  match SchemaFormat.ofPath? path with
  | none => .error (.unsupportedFormat path)
  | some format => do
    (format.read (← readFile d path)).mapError fun
      | .json _ => .invalidJson path
      | .toml => .invalidToml path

def loadRecords (d : Disk) (path : String) : Except StoreError (List Value) := do
  (readRecords (← readFile d path)).mapError fun
    | .noJson => .invalidJson path
    | e => .invalidRecords path e

/-- The value of an argument: JSON, or the path of a file that holds it behind an at sign. -/
def argumentValue (d : Disk) (argument : String) : Except CommandError Value := do
  let text ←
    match argument.toList with
    | '@' :: path => (d.read (String.ofList path)).mapError fun _ => CommandError.unreadableArgument
    | _ => pure argument
  match Json.parse text with
  | some v => return v
  | none => .error .invalidArgument

/-! ## Results -/

/-- A result as JSON on a line of its own, or as a text that quiet commands leave out. -/
def present (how : Display) (layout : Layout) (text : String) : String :=
  if how.json then layout.render how.pretty ++ "\n" else if how.quiet then "" else text

/-- Matching records, or their number alone. -/
def presentRecords (how : Display) (columns : List String) (total : Nat) (countOnly : Bool)
    (limit : Option Nat) (found : List Value) : String :=
  let matched := found.length
  if countOnly then
    if how.json then (Report.countLayout matched total).render how.pretty ++ "\n"
    else toString matched ++ "\n"
  else
    let shown := Report.limited limit found
    present how (Report.recordsLayout matched total shown)
      (Report.recordsTable how.colored columns matched total shown)

/-! ## Commands -/

/-- A filter argument that a schema accepts. -/
def checkFilter (d : Disk) (s : Schema) (argument : String) :
    Except CommandError (Option Filter) := do
  (s.validateValue (← argumentValue d argument)).mapError fun fs =>
    .invalidFilter (fs.map s.diagnose)

def validate (how : Display) (settings : Settings) (d : Disk) (argument : String) :
    Except CommandError String := do
  let s ← (loadSchema d (← settings.schemaPath)).mapError .store
  let f ← checkFilter d s argument
  let conditions := (f.map Filter.conditionCount).getD 0
  return present how (Report.validLayout conditions) (Report.validText how.colored conditions)

/-- A line that only verbose commands print. -/
def progressLine (how : Display) (line : String) : String :=
  if how.verbose then line ++ "\n" else ""

def compile (how : Display) (settings : Settings) (d : Disk) (argument : String)
    (target : Option Target) : String × Except CommandError String :=
  let target := target.getD settings.target
  let checked : Except CommandError (Option Filter) := do
    let s ← (loadSchema d (← settings.schemaPath)).mapError .store
    checkFilter d s argument
  match checked with
  | .error e => ("", .error e)
  | .ok f =>
    (progressLine how ("Compiling for " ++ target.name ++ "..."),
      match target.compile f with
      | .error e => .error (.query e)
      | .ok c =>
        .ok (present how (Report.compiledLayout c) (Report.compiledText how.colored c)))

def openRepository (settings : Settings) (d : Disk) : Except CommandError Repository := do
  let schemaPath ← settings.schemaPath
  let recordsPath ← settings.recordsPath
  let schema ← (loadSchema d schemaPath).mapError .store
  let records ← (loadRecords d recordsPath).mapError .store
  return ⟨schema, records⟩

def select (d : Disk) (r : Repository) (argument : Option String) :
    Except CommandError (List Value) := do
  let found ←
    match argument with
    | none => pure (r.find none)
    | some a => do pure (r.findValue (← argumentValue d a))
  match found with
  | .ok found => return found.map (·.1)
  | .error (.invalidFilter fs) => .error (.invalidFilter (fs.map r.schema.diagnose))
  | .error (.query e) => .error (.query e)

def query (how : Display) (settings : Settings) (d : Disk) (argument : Option String)
    (countOnly : Bool) (limit : Option Nat) : String × Except CommandError String :=
  match openRepository settings d with
  | .error e => ("", .error e)
  | .ok r =>
    (progressLine how ("Loaded " ++ toString r.size ++ " record(s)"),
      (select d r argument).map fun found =>
        presentRecords how (Report.schemaColumns r.schema found) r.size countOnly limit found)

def eval (how : Display) (settings : Settings) (d : Disk) (argument : String)
    (countOnly : Bool) : Except CommandError String := do
  let records ← (loadRecords d (← settings.recordsPath)).mapError .store
  let document ← (Document.ofValue (← argumentValue d argument)).mapError .query
  let found ← ((Evaluator.of document).select records).mapError .query
  let found := found.map (·.1)
  return presentRecords how (Report.recordColumns found) records.length countOnly none found

def schema (how : Display) (settings : Settings) (d : Disk) : Except CommandError String := do
  let s ← (loadSchema d (← settings.schemaPath)).mapError .store
  return present how s.layout (Report.schemaTable how.colored s)

/-- A setting on a line, if it is set. -/
def settingText (name : String) (text : α → String) : Option α → String
  | none => ""
  | some a => "  " ++ name ++ ": " ++ text a ++ "\n"

def flagText (b : Bool) : String :=
  if b then "true" else "false"

def configText (colored : Bool) (path : String) (isThere : Bool) (c : Config) : String :=
  Report.title colored "Configuration" ++ "\n\nFile: " ++ path ++ "\nExists: " ++
    flagText isThere ++ "\n\n" ++
    if isThere then
      "Settings:\n" ++ settingText "schema" id c.schema ++ settingText "records" id c.records ++
        settingText "target" id c.target ++ "\n[output]\n" ++
        settingText "color" flagText c.color ++ settingText "pretty" flagText c.pretty
    else "(No config file exists. Run 'sv config set <key> <value>' to create one.)\n"

def showConfig (how : Display) (path : String) (d : Disk) (c : Config) : String :=
  let isThere := d.has path
  present how
    (.object [("config", .ofValue c.toValue), ("exists", .bool isThere), ("path", .string path)])
    (configText how.colored path isThere c)

def saveConfig (path : String) (d : Disk) (c : Config) : Except ConfigError Disk :=
  (d.write path c.write).mapError fun
    | .noFolder => .folderNotMade
    | .noFile => .notWritten

def setConfig (how : Display) (path : String) (d : Disk) (c : Config) (key value : String) :
    Except ConfigError (String × Disk) := do
  let c ← (c.set key value).mapError .setting
  let d ← saveConfig path d c
  let layout : Layout :=
    .object [("key", .string key), ("path", .string path), ("status", .string "success"),
      ("value", .string value)]
  return (present how layout ("Set " ++ key ++ " = " ++ value ++ "\n"), d)

def configPath (how : Display) (path : String) (d : Disk) : String :=
  if how.json then
    let layout : Layout := .object [("exists", .bool (d.has path)), ("path", .string path)]
    layout.render how.pretty ++ "\n"
  else path ++ "\n"

/-- What a command without any data prints. -/
def greeting (how : Display) : String :=
  if how.quiet then "" else "sv - schema-checked filters\nUse --help for usage information\n"

def runConfig (how : Display) (path : String) (d : Disk) (c : Config) : ConfigAction → Outcome
  | .show => ⟨"", .ok (showConfig how path d c), d⟩
  | .path => ⟨"", .ok (configPath how path d), d⟩
  | .set key value =>
    match setConfig how path d c key value with
    | .ok (text, d) => ⟨"", .ok text, d⟩
    | .error e => ⟨"", .error (.config e), d⟩

def runData (how : Display) (settings : Settings) (d : Disk) :
    Action → String × Except CommandError String
  | .validate filter => ("", validate how settings d filter)
  | .compile filter target => compile how settings d filter target
  | .query filter countOnly limit => query how settings d filter countOnly limit
  | .eval query countOnly => ("", eval how settings d query countOnly)
  | .schema => ("", schema how settings d)
  | _ => ("", .ok "")

/-- Carries out a command under a configuration. The scripts for completions are not written here.
-/
def runWith (i : Invocation) (path : String) (d : Disk) (c : Config) : Outcome :=
  let how := i.display c
  match i.action with
  | .config action => runConfig how path d c action
  | .completions _ => ⟨"", .ok "", d⟩
  | .greet => ⟨"", .ok (greeting how), d⟩
  | action =>
    match i.settings c with
    | .error e => ⟨"", .error (.config e), d⟩
    | .ok settings =>
      let (progress, result) := runData how settings d action
      ⟨progress, result, d⟩

def run (e : Environment) (i : Invocation) (d : Disk) : Outcome :=
  match e.configPath, loadConfig e d with
  | .ok path, .ok c => runWith i path d c
  | .error e, _ => ⟨"", .error (.config e), d⟩
  | _, .error e => ⟨"", .error (.config e), d⟩

end Command

end SchemaFilter
