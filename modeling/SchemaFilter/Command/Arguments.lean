import SchemaFilter.Query.Target

/-!
# Arguments

`Invocation.read` reads the arguments of the command line. A command may have commands of its own,
and the general options are accepted at every level; at a deeper level they win. An option may be
given once at each level.

Asking for help or for the version ends reading at once, and so does the first argument that does
not fit. What is missing or does not go together is noticed at the end.
-/

namespace SchemaFilter

inductive Shell where
  | bash
  | zsh
  | fish
  | powershell
deriving DecidableEq, Repr

def Shell.ofName? : String → Option Shell
  | "bash" => some bash
  | "zsh" => some zsh
  | "fish" => some fish
  | "powershell" => some powershell
  | _ => none

inductive ConfigAction where
  | show
  | set (key value : String)
  | path
deriving DecidableEq, Repr

inductive Action where
  | greet
  | validate (filter : String)
  | compile (filter : String) (target : Option Target)
  | query (filter : Option String) (countOnly : Bool) (limit : Option Nat)
  | eval (query : String) (countOnly : Bool)
  | schema
  | config (action : ConfigAction)
  | completions (shell : Shell)
deriving DecidableEq, Repr

/-- The general options and what is to be done. -/
structure Invocation where
  verbose : Bool
  quiet : Bool
  json : Bool
  noColor : Bool
  schema : Option String
  records : Option String
  action : Action
deriving DecidableEq, Repr

/-- Why there is nothing to do. -/
inductive Usage where
  /-- The arguments do not fit. -/
  | rejected
  /-- Help or the version was asked for. -/
  | shown
deriving DecidableEq, Repr

inductive OptionName where
  | verbose
  | quiet
  | json
  | noColor
  | schema
  | records
  | target
  | count
  | limit
deriving DecidableEq, Repr

namespace OptionName

/-- The name of an option behind two hyphens. -/
def long : OptionName → String
  | verbose => "verbose"
  | quiet => "quiet"
  | json => "json"
  | noColor => "no-color"
  | schema => "schema"
  | records => "records"
  | target => "target"
  | count => "count"
  | limit => "limit"

/-- The letter of an option behind one hyphen. -/
def short? : OptionName → Option Char
  | verbose => some 'v'
  | quiet => some 'q'
  | target => some 't'
  | limit => some 'l'
  | _ => none

/-- A number as an argument: digits with an optional plus sign, up to 64 bits. -/
def readNumber? (s : String) : Option Nat :=
  let digits :=
    match s.toList with
    | '+' :: rest => rest
    | cs => cs
  let n := digits.foldl (fun n c => 10 * n + (c.toNat - '0'.toNat)) 0
  if digits.isEmpty || !digits.all Char.isDigit || Nat.pow 2 64 ≤ n then none else some n

def takesValue : OptionName → Bool
  | schema => true
  | records => true
  | target => true
  | limit => true
  | _ => false

def accepts (o : OptionName) (value : String) : Bool :=
  match o with
  | schema => value != ""
  | records => value != ""
  | target => (Target.ofName value).toBool
  | limit => (readNumber? value).isSome
  | _ => false

/-- The options of every level. -/
def general : List OptionName := [verbose, quiet, json, noColor, schema, records]

end OptionName

/-- A level of the command line. -/
inductive Level where
  | root
  | validate
  | compile
  | query
  | eval
  | schema
  | config
  | configShow
  | configSet
  | configPath
  | completions
deriving DecidableEq, Repr

namespace Level

def options : Level → List OptionName
  | compile => .target :: OptionName.general
  | query => .count :: .limit :: OptionName.general
  | eval => .count :: OptionName.general
  | _ => OptionName.general

/-- How many arguments a level takes at least and at most. -/
def arity : Level → Nat × Nat
  | validate => (1, 1)
  | compile => (1, 1)
  | query => (0, 1)
  | eval => (1, 1)
  | configSet => (2, 2)
  | completions => (1, 1)
  | _ => (0, 0)

def accepts (level : Level) (argument : String) : Bool :=
  match level with
  | completions => (Shell.ofName? argument).isSome
  | _ => true

def hasCommands : Level → Bool
  | root => true
  | config => true
  | _ => false

def command? : Level → String → Option Level
  | root, name =>
    match name with
    | "validate" | "v" => some validate
    | "compile" | "c" => some compile
    | "query" | "q" => some query
    | "eval" => some eval
    | "schema" => some schema
    | "config" => some config
    | "completions" => some completions
    | _ => none
  | config, name =>
    match name with
    | "show" => some configShow
    | "set" => some configSet
    | "path" => some configPath
    | _ => none
  | _, _ => none

end Level

/-- What has been given at one level. -/
structure Given where
  flags : List OptionName := []
  values : List (OptionName × String) := []
  arguments : List String := []
deriving Repr, Inhabited

namespace Given

def has (g : Given) (o : OptionName) : Bool :=
  g.flags.contains o || g.values.any (·.1 == o)

def addFlag (g : Given) (o : OptionName) : Except Usage Given :=
  if g.has o then .error .rejected else .ok { g with flags := o :: g.flags }

def addValue (g : Given) (o : OptionName) (value : String) : Except Usage Given :=
  if g.has o || !o.accepts value then .error .rejected
  else .ok { g with values := (o, value) :: g.values }

def addArgument (g : Given) (level : Level) (argument : String) : Except Usage Given :=
  if g.arguments.length < level.arity.2 && level.accepts argument then
    .ok { g with arguments := g.arguments ++ [argument] }
  else .error .rejected

end Given

namespace Arguments

/-- Whether an argument has the form of an option, and so cannot be a value. -/
def isOption (argument : String) : Bool :=
  match argument.toList with
  | '-' :: _ :: _ => true
  | _ => false

/-- Letters behind one hyphen. The first option with a value takes the rest for it; if there is
none, the option is returned and waits for the next argument. -/
def letters (level : Level) : Given → List Char → Except Usage (Given × Option OptionName)
  | g, [] => .ok (g, none)
  | g, c :: rest =>
    match level.options.find? (·.short? == some c) with
    | some o =>
      if o.takesValue then
        match rest with
        | [] => .ok (g, some o)
        | '=' :: value => do return (← g.addValue o (String.ofList value), none)
        | value => do return (← g.addValue o (String.ofList value), none)
      else do letters level (← g.addFlag o) rest
    | none => .error (if c = 'h' ∨ c = 'V' then .shown else .rejected)

/-- A word behind two hyphens, with a value if an equality sign follows it. -/
def word (level : Level) (g : Given) (cs : List Char) : Except Usage (Given × Option OptionName) :=
  let name := String.ofList (cs.takeWhile (· != '='))
  let value? :=
    match cs.dropWhile (· != '=') with
    | _ :: value => some (String.ofList value)
    | [] => none
  match level.options.find? (·.long == name), value? with
  | some o, some value =>
    if o.takesValue then do return (← g.addValue o value, none) else .error .rejected
  | some o, none =>
    if o.takesValue then .ok (g, some o) else do return (← g.addFlag o, none)
  | none, none => .error (if name = "help" ∨ name = "version" then .shown else .rejected)
  | none, some _ => .error .rejected

def options (level : Level) (g : Given) (argument : String) :
    Except Usage (Given × Option OptionName) :=
  match argument.toList with
  | '-' :: '-' :: cs => word level g cs
  | '-' :: cs => letters level g cs
  | _ => .error .rejected

/-- The arguments of one level, up to the name of a command. -/
def scan (level : Level) : Given → List String →
    Except Usage (Given × Option (String × List String))
  | g, [] => .ok (g, none)
  | g, argument :: rest =>
    if argument = "--" then do
      return (← rest.foldlM (fun g a => g.addArgument level a) g, none)
    else if isOption argument then do
      match ← options level g argument, rest with
      | (g, none), rest => scan level g rest
      | (_, some _), [] => .error .rejected
      | (g, some o), value :: rest =>
        if isOption value then .error .rejected else scan level (← g.addValue o value) rest
    else if level.hasCommands && ((level.command? argument).isSome || argument == "help") then
      .ok (g, some (argument, rest))
    else do scan level (← g.addArgument level argument) rest

/-- Whether help can be shown for the command that names lead to. Help for help itself is there too,
but leads no further. -/
def hasHelp : Level → List String → Bool
  | _, [] => true
  | level, name :: rest =>
    match level.command? name with
    | some next => hasHelp next rest
    | none => level.hasCommands && name == "help" && rest.isEmpty

/-- All levels with what is given at each, from the root on. -/
def levels : (fuel : Nat) → Level → List String → Except Usage (List (Level × Given))
  | 0, _, _ => .error .rejected
  | fuel + 1, level, arguments => do
    match ← scan level {} arguments with
    | (g, none) => return [(level, g)]
    | (g, some (name, rest)) =>
      match level.command? name with
      | some next => return (level, g) :: (← levels fuel next rest)
      | none => .error (if hasHelp level rest then .shown else .rejected)

/-- Whether what is given at a level is complete and goes together. A variable of the environment
that stands in for an option has to fit as well. -/
def isComplete (environment : List (OptionName × String)) (level : Level) (g : Given) : Bool :=
  level.arity.1 ≤ g.arguments.length && !(g.has .verbose && g.has .quiet) &&
    environment.all fun (o, value) => g.has o || o.accepts value

/-- The value of an option at the deepest level that gives it, or else in the environment. -/
def value? (environment : List (OptionName × String)) (given : List (Level × Given))
    (o : OptionName) : Option String :=
  (given.reverse.findSome? fun (_, g) => List.lookup o g.values) <|> List.lookup o environment

/-- What is to be done at the deepest level. -/
def action : Level → Given → Action
  | .validate, g => .validate (g.arguments.headD "")
  | .compile, g =>
    .compile (g.arguments.headD "")
      ((List.lookup .target g.values).bind fun name => (Target.ofName name).toOption)
  | .query, g =>
    .query g.arguments.head? (g.has .count)
      ((List.lookup .limit g.values).bind OptionName.readNumber?)
  | .eval, g => .eval (g.arguments.headD "") (g.has .count)
  | .schema, _ => .schema
  | .config, _ => .config .show
  | .configShow, _ => .config .show
  | .configSet, g => .config (.set (g.arguments.headD "") (g.arguments.getD 1 ""))
  | .configPath, _ => .config .path
  | .completions, g => .completions ((Shell.ofName? (g.arguments.headD "")).getD .bash)
  | .root, _ => .greet

end Arguments

/-- Reads the arguments of the command line. `environment` holds the variables that stand in for
options. -/
def Invocation.read (environment : List (OptionName × String)) (arguments : List String) :
    Except Usage Invocation := do
  let given ← Arguments.levels 4 .root arguments
  if given.all fun (level, g) => Arguments.isComplete environment level g then
    let flag (o : OptionName) : Bool := given.any fun (_, g) => g.has o
    let (level, g) := given.getLastD (.root, {})
    return {
      verbose := flag .verbose
      quiet := flag .quiet
      json := flag .json
      noColor := flag .noColor
      schema := Arguments.value? environment given .schema
      records := Arguments.value? environment given .records
      action := Arguments.action level g }
  else .error .rejected

end SchemaFilter
