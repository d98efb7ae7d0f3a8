import SchemaFilter.Toml.Token

/-!
# Reading TOML

`Toml.parse` reads a document: key and value pairs, each on a line, under headers that name tables.
No key may be set twice, and a table is written in one way only: once under a header, or through
dotted keys from one place, or in braces.
-/

namespace SchemaFilter.Toml

abbrev Entries := List (String × Toml)

/-- Keys and containers are nested less deep than this. -/
def nestingLimit : Nat := 80

/-! ## Keys -/

/-- Whether a character may stand in a key without quotes. -/
def isKeyChar (c : Char) : Bool :=
  c.isAlphanum || c == '_' || c == '-'

/-- One part of a key. -/
def simpleKey : Reader String := fun cs =>
  match cs with
  | '"' :: _ => shortString cs
  | '\'' :: _ => shortString cs
  | _ =>
    let name := cs.takeWhile isKeyChar
    if name.isEmpty then none else some (String.ofList name, cs.drop name.length)

/-- The parts of a key after the first; blanks may stand around the points between them. -/
def furtherKeys : (fuel : Nat) → List Char → Option (List String × List Char)
  | 0, _ => none
  | fuel + 1, cs =>
    match skipBlanks cs with
    | '.' :: rest => do
      let (key, rest) ← simpleKey (skipBlanks rest)
      let (keys, rest) ← furtherKeys fuel rest
      return (key :: keys, rest)
    | rest => some ([], rest)

def dottedKey : Reader (List String × String) := fun cs => do
  let (first, rest) ← simpleKey (skipBlanks cs)
  let (others, rest) ← furtherKeys (rest.length + 1) rest
  let keys := first :: others
  if nestingLimit ≤ keys.length then none
  return ((keys.dropLast, keys.getLastD first), rest)

/-! ## Adding to tables -/

def replace (key : String) (value : Toml) (entries : Entries) : Entries :=
  entries.map fun (k, v) => if k = key then (k, value) else (k, v)

/-- Changes the table at the end of a path through a table. Tables on the way that do not exist come
to be as `made` says. With `dotted` set the path is one of keys, and tables with a header of their
own are closed to it. A list of tables stands for its last one. -/
def changeAt (made : TableKind) (dotted : Bool) (change : TableKind → Entries → Option Toml) :
    List String → TableKind → Entries → Option Toml
  | [], kind, entries => change kind entries
  | key :: path, kind, entries => do
    match List.lookup key entries with
    | none =>
      let child ← changeAt made dotted change path made []
      return .table kind (entries ++ [(key, child)])
    | some (.table .inline _) => none
    | some (.table .headed inner) =>
      if dotted then none
      else
        return .table kind (replace key (← changeAt made dotted change path .headed inner) entries)
    | some (.table childKind inner) =>
      return .table kind (replace key (← changeAt made dotted change path childKind inner) entries)
    | some (.tables items) =>
      match items.getLast? with
      | some (.table childKind inner) =>
        let last ← changeAt made dotted change path childKind inner
        return .table kind (replace key (.tables (items.dropLast ++ [last])) entries)
      | _ => none
    | some _ => none

/-- Sets a key of a table that must not have it. A path of dotted keys ends in a table made by
dotted keys, and only such a path does. -/
def setKey (isPath : Bool) (key : String) (value : Toml) (kind : TableKind) (entries : Entries) :
    Option Toml :=
  let isDotted := kind == .dotted || kind == .inlineDotted
  if isDotted != isPath || (List.lookup key entries).isSome then none
  else some (.table kind (entries ++ [(key, value)]))

def addPair (made : TableKind) (path : List String) (key : String) (value : Toml)
    (kind : TableKind) (entries : Entries) : Option Toml :=
  changeAt made true (setKey (!path.isEmpty) key value) path kind entries

/-- Opens the table of a header. Its parents may have named it before. -/
def openTable (key : String) (kind : TableKind) (entries : Entries) : Option Toml :=
  match List.lookup key entries with
  | none => some (.table kind (entries ++ [(key, .table .headed [])]))
  | some (.table .implied inner) =>
    some (.table kind (entries.filter (·.1 != key) ++ [(key, .table .headed inner)]))
  | some _ => none

/-- Opens another table of a header in double brackets. -/
def openTables (key : String) (kind : TableKind) (entries : Entries) : Option Toml :=
  match List.lookup key entries with
  | none => some (.table kind (entries ++ [(key, .tables [.table .headed []])]))
  | some (.tables items) =>
    some (.table kind (replace key (.tables (items ++ [.table .headed []])) entries))
  | some _ => none

/-! ## Values -/

mutual

/-- A value inside `depth` containers. -/
def value : (fuel depth : Nat) → Reader Toml
  | 0, _, _ => none
  | fuel + 1, depth, cs =>
    match cs with
    | '"' :: _ => (anyString cs).map fun (s, rest) => (.string s, rest)
    | '\'' :: _ => (anyString cs).map fun (s, rest) => (.string s, rest)
    | '[' :: rest =>
      if nestingLimit ≤ depth + 1 then none
      else (items fuel (depth + 1) rest).map fun (items, rest) => (.array items, rest)
    | '\x7b' :: rest =>
      if nestingLimit ≤ depth + 1 then none
      else
        match skipBlanks rest with
        | '\x7d' :: rest => some (.table .inline [], rest)
        | rest => pairs fuel (depth + 1) [] rest
    | 't' :: 'r' :: 'u' :: 'e' :: rest => some (.boolean true, rest)
    | 'f' :: 'a' :: 'l' :: 's' :: 'e' :: rest => some (.boolean false, rest)
    | _ => dateTimeToken cs <|> number cs

/-- The items of an array after its opening bracket. A comma may follow the last. -/
def items : (fuel depth : Nat) → Reader (List Toml)
  | 0, _, _ => none
  | fuel + 1, depth, cs => do
    match ← skipLines cs.length cs with
    | ']' :: rest => return ([], rest)
    | rest =>
      let (item, rest) ← value fuel depth rest
      match ← skipLines rest.length rest with
      | ',' :: rest =>
        let (others, rest) ← items fuel depth rest
        return (item :: others, rest)
      | ']' :: rest => return ([item], rest)
      | _ => none

/-- The pairs of a table in braces, at least one, added to those before. -/
def pairs : (fuel depth : Nat) → Entries → Reader Toml
  | 0, _, _, _ => none
  | fuel + 1, depth, before, cs => do
    let ((path, key), rest) ← dottedKey cs
    match skipBlanks rest with
    | '=' :: rest =>
      let (v, rest) ← value fuel depth (skipBlanks rest)
      match ← addPair .inlineDotted path key v .inline before with
      | .table _ entries =>
        match skipBlanks rest with
        | ',' :: rest => pairs fuel depth entries rest
        | '\x7d' :: rest => return (.table .inline entries, rest)
        | _ => none
      | _ => none
    | _ => none

end

/-! ## Documents -/

/-- A document as far as it has been read: its tables, and the header that holds at this point. -/
structure Draft where
  root : Entries
  header : List String

namespace Draft

def changeRoot (d : Draft) (made : TableKind) (dotted : Bool) (path : List String)
    (change : TableKind → Entries → Option Toml) : Option Entries := do
  match ← changeAt made dotted change path .headed d.root with
  | .table _ root => return root
  | _ => none

/-- Adds a pair under the header that holds. -/
def add (d : Draft) (path : List String) (key : String) (value : Toml) : Option Draft := do
  return { d with root := ← d.changeRoot .implied false d.header (addPair .dotted path key value) }

def openHeader (d : Draft) (isList : Bool) (path : List String) (key : String) : Option Draft := do
  let change := if isList then openTables key else openTable key
  return { root := ← d.changeRoot .implied false path change, header := path ++ [key] }

end Draft

/-- A header after its first bracket, and whether it has two. -/
def headerLine (cs : List Char) : Option ((Bool × List String × String) × List Char) := do
  let (isList, cs) :=
    match cs with
    | '[' :: rest => (true, rest)
    | _ => (false, cs)
  let ((path, key), rest) ← dottedKey cs
  match isList, skipBlanks rest with
  | true, ']' :: ']' :: rest => return ((true, path, key), ← lineEnd? rest)
  | false, ']' :: rest => return ((false, path, key), ← lineEnd? rest)
  | _, _ => none

def document : (fuel : Nat) → Draft → List Char → Option Draft
  | 0, _, _ => none
  | fuel + 1, d, cs =>
    match skipBlanks cs with
    | [] => some d
    | '#' :: rest => do document fuel d (← lineEnd? ('#' :: rest))
    | '\n' :: rest => document fuel d rest
    | '\r' :: rest => do document fuel d (← lineBreak? ('\r' :: rest))
    | '[' :: rest => do
      let ((isList, path, key), rest) ← headerLine rest
      document fuel (← d.openHeader isList path key) rest
    | rest => do
      let ((path, key), rest) ← dottedKey rest
      match skipBlanks rest with
      | '=' :: rest =>
        let (v, rest) ← value (rest.length + 1) 0 (skipBlanks rest)
        document fuel (← d.add path key v) (← lineEnd? rest)
      | _ => none

/-- The table that a document writes. A byte order mark may stand in front. -/
def parse (text : String) : Option Toml := do
  let cs :=
    match text.toList with
    | '\ufeff' :: rest => rest
    | cs => cs
  let d ← document (cs.length + 1) ⟨[], []⟩ cs
  return .table .headed d.root

end SchemaFilter.Toml
