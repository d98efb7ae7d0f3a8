import SchemaFilter.Config.Basic
import SchemaFilter.Toml.Parser

/-!
# Configuration files

The settings are kept in TOML: version, paths and target first, then the table of the output. All
but the version is written only if it is set. A file of any version is read, and written back in the
present one.
-/

namespace SchemaFilter.Config

/-! ## Reading -/

/-- A text setting that may be missing. -/
def textSetting? (entries : Toml.Entries) (key : String) : Option (Option String) :=
  Toml.view.optional Toml.view.text? (List.lookup key entries)

/-- Whether the version of a file is a whole number of 32 bits. -/
def readsVersion (entries : Toml.Entries) : Bool :=
  match List.lookup "version" entries with
  | none => true
  | some (.integer n) => 0 ≤ n && n < Nat.pow 2 32
  | some _ => false

/-- The two settings of the output: a table, or both in order. -/
def outputSettings? : Option Toml → Option (Option Bool × Option Bool)
  | none => some (none, none)
  | some v =>
    match Toml.view.items? v with
    | some [color, pretty] => do
      return (some (← Toml.view.flag? color), some (← Toml.view.flag? pretty))
    | some _ => none
    | none => do
      let entries ← Toml.view.members? v
      return (← Toml.view.optional Toml.view.flag? (List.lookup "color" entries),
        ← Toml.view.optional Toml.view.flag? (List.lookup "pretty" entries))

def read? (text : String) : Option Config := do
  let entries ← Toml.view.members? (← Toml.parse text)
  if !readsVersion entries then none
  let (color, pretty) ← outputSettings? (List.lookup "output" entries)
  return {
    schema := ← textSetting? entries "schema"
    records := ← textSetting? entries "records"
    target := ← textSetting? entries "target"
    color
    pretty }

/-! ## Writing -/

/-- A character inside double quotes; line breaks stay as they are in a long string. -/
def quotedChar (isLong : Bool) (c : Char) : List Char :=
  match c with
  | '\x08' => ['\\', 'b']
  | '\t' => ['\\', 't']
  | '\n' => if isLong then ['\n'] else ['\\', 'n']
  | '\x0c' => ['\\', 'f']
  | '\r' => ['\\', 'r']
  | '"' => ['\\', '"']
  | '\\' => ['\\', '\\']
  | c =>
    if c.toNat < 32 ∨ c.toNat = 127 then
      ['\\', 'u', '0', '0', (Json.hexDigit (c.toNat / 16)).toUpper,
        (Json.hexDigit (c.toNat % 16)).toUpper]
    else [c]

def longestRun (c : Char) : (current best : Nat) → List Char → Nat
  | current, best, [] => max current best
  | current, best, d :: rest =>
    if d = c then longestRun c (current + 1) best rest else longestRun c 0 (max current best) rest

/-- Whether a text can be written without escapes: it has no controls but tabs and line breaks, no
three single quotes in a row and none at its end. -/
def isPlain (cs : List Char) : Bool :=
  cs.all (fun c => c == '\t' || c == '\n' || (32 ≤ c.toNat && c.toNat != 127)) &&
    longestRun '\'' 0 0 cs < 3 && cs.getLast? != some '\''

/-- A text as a TOML string. A text with quotes or backslashes is written without escapes if it can
be, and a text with line breaks over several lines. -/
def quoteText (s : String) : List Char :=
  let cs := s.toList
  let isLong := cs.contains '\n'
  let lineBreak := if isLong then ['\n'] else []
  if isPlain cs && (cs.contains '"' || cs.contains '\\') then
    let quotes := if isLong || cs.contains '\'' then ['\'', '\'', '\''] else ['\'']
    quotes ++ lineBreak ++ cs ++ quotes
  else
    let quotes := if isLong then ['"', '"', '"'] else ['"']
    quotes ++ lineBreak ++ cs.flatMap (quotedChar isLong) ++ quotes

def settingLine (key : String) (write : α → List Char) : Option α → List Char
  | none => []
  | some a => key.toList ++ [' ', '=', ' '] ++ write a ++ ['\n']

def flagText (b : Bool) : List Char :=
  if b then ['t', 'r', 'u', 'e'] else ['f', 'a', 'l', 's', 'e']

def write (c : Config) : String :=
  String.ofList <|
    settingLine "version" (fun n => (toString n).toList) (some version) ++
    settingLine "schema" quoteText c.schema ++ settingLine "records" quoteText c.records ++
    settingLine "target" quoteText c.target ++ "\n[output]\n".toList ++
    settingLine "color" flagText c.color ++ settingLine "pretty" flagText c.pretty

end SchemaFilter.Config
