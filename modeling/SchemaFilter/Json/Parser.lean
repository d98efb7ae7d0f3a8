import SchemaFilter.Json.Token

/-!
# Reading JSON values

`Json.parse` reads one value that fills the whole text. Containers may be nested at most 127 deep,
one less than `depthLimit`; of two members with one key the later one stays.
-/

namespace SchemaFilter.Json

/-- A container at this depth is refused. -/
def depthLimit : Nat := 128

mutual

/-- A value at the front of the text. Each call uses one unit of fuel. -/
def value : (fuel depth : Nat) → List Char → Option (Value × List Char)
  | 0, _, _ => none
  | fuel + 1, depth, cs =>
    match skipSpace cs with
    | '"' :: rest => (stringBody rest).map fun (s, rest) => (.string (String.ofList s), rest)
    | '[' :: rest =>
      if depth ≤ 1 then none
      else
        match skipSpace rest with
        | ']' :: rest => some (.array [], rest)
        | rest => (items fuel (depth - 1) rest).map fun (items, rest) => (.array items, rest)
    | '\x7b' :: rest =>
      if depth ≤ 1 then none
      else
        match skipSpace rest with
        | '\x7d' :: rest => some (.object [], rest)
        | rest => (members fuel (depth - 1) [] rest).map fun (ms, rest) => (.object ms, rest)
    | 'n' :: rest => (word ['u', 'l', 'l'] rest).map fun rest => (.null, rest)
    | 't' :: rest => (word ['r', 'u', 'e'] rest).map fun rest => (.bool true, rest)
    | 'f' :: rest => (word ['a', 'l', 's', 'e'] rest).map fun rest => (.bool false, rest)
    | rest => (number rest).map fun (n, rest) => (.number n, rest)

/-- The items of an array after its opening bracket, at least one. -/
def items : (fuel depth : Nat) → List Char → Option (List Value × List Char)
  | 0, _, _ => none
  | fuel + 1, depth, cs => do
    let (item, rest) ← value fuel depth cs
    match skipSpace rest with
    | ',' :: rest =>
      let (others, rest) ← items fuel depth rest
      return (item :: others, rest)
    | ']' :: rest => return ([item], rest)
    | _ => none

/-- The members of an object after its opening brace, at least one, added to those read before. -/
def members : (fuel depth : Nat) → Members → List Char → Option (Members × List Char)
  | 0, _, _, _ => none
  | fuel + 1, depth, before, cs =>
    match skipSpace cs with
    | '"' :: rest => do
      let (key, rest) ← stringBody rest
      match skipSpace rest with
      | ':' :: rest =>
        let (item, rest) ← value fuel depth rest
        let before := before.insert (String.ofList key) item
        match skipSpace rest with
        | ',' :: rest => members fuel depth before rest
        | '\x7d' :: rest => return (before, rest)
        | _ => none
      | _ => none
    | _ => none

end

/-- Enough fuel for any text of this length: a container and each of its entries take one unit, and
each takes at least one character. -/
def fuelFor (cs : List Char) : Nat :=
  2 * cs.length + 2

/-- The value that fills a text, with containers nested less than `limit` deep. -/
def parseNested (limit : Nat) (text : String) : Option Value := do
  let cs := text.toList
  let (v, rest) ← value (fuelFor cs) limit cs
  if (skipSpace rest).isEmpty then return v else none

/-- The value that fills a text. -/
def parse (text : String) : Option Value :=
  parseNested depthLimit text

end SchemaFilter.Json
