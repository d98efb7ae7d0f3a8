import SchemaFilter.Value.Basic

/-!
# Writing JSON

A value is written compactly, or with one item per line and two more spaces at each level. Printing
goes through `Json.Layout`, whose objects keep the order they are given: structures are written in
declaration order, values in key order.
-/

namespace SchemaFilter.Json

def hexDigit (n : Nat) : Char :=
  (Nat.toDigits 16 n).getD 0 '0'

/-- A character inside a quoted string. Only quotes, backslashes and controls are escaped. -/
def escape (c : Char) : List Char :=
  match c with
  | '"' => ['\\', '"']
  | '\\' => ['\\', '\\']
  | '\n' => ['\\', 'n']
  | '\r' => ['\\', 'r']
  | '\t' => ['\\', 't']
  | '\x08' => ['\\', 'b']
  | '\x0c' => ['\\', 'f']
  | c =>
    if c.toNat < 32 then ['\\', 'u', '0', '0', hexDigit (c.toNat / 16), hexDigit (c.toNat % 16)]
    else [c]

def quote (s : String) : List Char :=
  '"' :: s.toList.flatMap escape ++ ['"']

/-- What is to be written: scalars as text, containers in the order given. -/
inductive Layout where
  | scalar (text : List Char)
  | array (items : List Layout)
  | object (members : List (String × Layout))
deriving Inhabited

namespace Layout

mutual

def ofValue : Value → Layout
  | .null => .scalar ['n', 'u', 'l', 'l']
  | .bool true => .scalar ['t', 'r', 'u', 'e']
  | .bool false => .scalar ['f', 'a', 'l', 's', 'e']
  | .number n => .scalar n.text.toList
  | .string s => .scalar (quote s)
  | .array items => .array (ofItems items)
  | .object members => .object (ofMembers members)

def ofItems : List Value → List Layout
  | [] => []
  | v :: vs => ofValue v :: ofItems vs

def ofMembers : List (String × Value) → List (String × Layout)
  | [] => []
  | (k, v) :: rest => (k, ofValue v) :: ofMembers rest

end

def string (s : String) : Layout :=
  .scalar (quote s)

def nat (n : Nat) : Layout :=
  .scalar (toString n).toList

def bool (b : Bool) : Layout :=
  ofValue (.bool b)

mutual

/-- Written without any blanks. -/
def compact : Layout → List Char
  | .scalar text => text
  | .array items => '[' :: compactItems items ++ [']']
  | .object members => '\x7b' :: compactMembers members ++ ['\x7d']

def compactItems : List Layout → List Char
  | [] => []
  | [item] => compact item
  | item :: rest => compact item ++ ',' :: compactItems rest

def compactMembers : List (String × Layout) → List Char
  | [] => []
  | [(key, item)] => quote key ++ ':' :: compact item
  | (key, item) :: rest => quote key ++ ':' :: compact item ++ ',' :: compactMembers rest

end

/-- A line break followed by two blanks per level. -/
def newline (level : Nat) : List Char :=
  '\n' :: List.replicate (2 * level) ' '

mutual

/-- Written with one item per line. Empty containers stay on one line. -/
def pretty (level : Nat) : Layout → List Char
  | .scalar text => text
  | .array [] => ['[', ']']
  | .array items => '[' :: prettyItems (level + 1) items ++ newline level ++ [']']
  | .object [] => ['\x7b', '\x7d']
  | .object members => '\x7b' :: prettyMembers (level + 1) members ++ newline level ++ ['\x7d']

def prettyItems (level : Nat) : List Layout → List Char
  | [] => []
  | [item] => newline level ++ pretty level item
  | item :: rest => newline level ++ pretty level item ++ ',' :: prettyItems level rest

def prettyMembers (level : Nat) : List (String × Layout) → List Char
  | [] => []
  | [(key, item)] => newline level ++ quote key ++ ':' :: ' ' :: pretty level item
  | (key, item) :: rest =>
    newline level ++ quote key ++ ':' :: ' ' :: pretty level item ++ ',' :: prettyMembers level rest

end

def render (isPretty : Bool) (layout : Layout) : String :=
  String.ofList (if isPretty then layout.pretty 0 else layout.compact)

end Layout

/-- A value on one line. -/
def print (value : Value) : String :=
  (Layout.ofValue value).render false

end SchemaFilter.Json
