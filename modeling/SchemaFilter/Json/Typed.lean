import SchemaFilter.Json.Token

/-!
# Reading structures from JSON text

The readers of this module take a structure straight from a text, without a value in between, and
say what stopped them first: text that is no JSON, or JSON of the wrong kind. A scalar of the wrong
kind is read to its end, and may turn out to be malformed; an array or an object of the wrong kind
is not looked into.

What stands under unknown keys is skipped. It has to be well formed, but surrogates need no
partners, numbers have no limits and containers may be nested as deep as one likes.
-/

namespace SchemaFilter.Json

inductive TextFault where
  /-- The text is no JSON. -/
  | malformed
  /-- The text is JSON of the wrong kind. -/
  | mismatched
deriving DecidableEq, Repr

/-- A reader that takes something from the front of a text. -/
abbrev Typed (α : Type) := List Char → Except TextFault (α × List Char)

/-- What has been read if there is something, and malformed text otherwise. -/
def orMalformed : Option α → Except TextFault α
  | some a => .ok a
  | none => .error .malformed

/-- What has been read if it fits, and a mismatch otherwise. -/
def orMismatched : Option α → Except TextFault α
  | some a => .ok a
  | none => .error .mismatched

def skipScalar? (cs : List Char) : Option (List Char) :=
  match cs with
  | '"' :: rest => (stringBody rest).map (·.2)
  | 'n' :: rest => word ['u', 'l', 'l'] rest
  | 't' :: rest => word ['r', 'u', 'e'] rest
  | 'f' :: rest => word ['a', 'l', 's', 'e'] rest
  | rest => (number rest).map (·.2)

def wrongKind (cs : List Char) : TextFault :=
  match skipSpace cs with
  | '[' :: _ => .mismatched
  | '\x7b' :: _ => .mismatched
  | rest => if (skipScalar? rest).isSome then .mismatched else .malformed

/-! ## Skipping -/

/-- The text after a string, whose escapes are not looked at closely. -/
def skipString? : List Char → Option (List Char)
  | [] => none
  | '"' :: rest => some rest
  | '\\' :: 'u' :: a :: b :: c :: d :: rest =>
    if (hexQuad a b c d).isSome then skipString? rest else none
  | '\\' :: c :: rest => if (simpleEscape? c).isSome then skipString? rest else none
  | c :: rest => if c.toNat < 32 ∨ c = '\\' then none else skipString? rest

mutual

def skipValue? : (fuel : Nat) → List Char → Option (List Char)
  | 0, _ => none
  | fuel + 1, cs =>
    match skipSpace cs with
    | '"' :: rest => skipString? rest
    | '[' :: rest =>
      match skipSpace rest with
      | ']' :: rest => some rest
      | rest => skipItems? fuel rest
    | '\x7b' :: rest =>
      match skipSpace rest with
      | '\x7d' :: rest => some rest
      | rest => skipMembers? fuel rest
    | 'n' :: rest => word ['u', 'l', 'l'] rest
    | 't' :: rest => word ['r', 'u', 'e'] rest
    | 'f' :: rest => word ['a', 'l', 's', 'e'] rest
    | rest => (Numeral.read rest).map (·.2)

def skipItems? : (fuel : Nat) → List Char → Option (List Char)
  | 0, _ => none
  | fuel + 1, cs => do
    match skipSpace (← skipValue? fuel cs) with
    | ',' :: rest => skipItems? fuel rest
    | ']' :: rest => some rest
    | _ => none

def skipMembers? : (fuel : Nat) → List Char → Option (List Char)
  | 0, _ => none
  | fuel + 1, cs =>
    match skipSpace cs with
    | '"' :: rest => do
      match skipSpace (← skipString? rest) with
      | ':' :: rest =>
        match skipSpace (← skipValue? fuel rest) with
        | ',' :: rest => skipMembers? fuel rest
        | '\x7d' :: rest => some rest
        | _ => none
      | _ => none
    | _ => none

end

/-! ## Scalars -/

def typedText : Typed String := fun cs =>
  match skipSpace cs with
  | '"' :: rest => do
    let (s, rest) ← orMalformed (stringBody rest)
    return (String.ofList s, rest)
  | rest => .error (wrongKind rest)

def typedFlag : Typed Bool := fun cs =>
  match skipSpace cs with
  | 't' :: rest => return (true, ← orMalformed (word ['r', 'u', 'e'] rest))
  | 'f' :: rest => return (false, ← orMalformed (word ['a', 'l', 's', 'e'] rest))
  | rest => .error (wrongKind rest)

/-- Something that may be null. -/
def typedOption (read : Typed α) : Typed (Option α) := fun cs =>
  match skipSpace cs with
  | 'n' :: rest => return (none, ← orMalformed (word ['u', 'l', 'l'] rest))
  | rest => do
    let (a, rest) ← read rest
    return (some a, rest)

/-- The null behind the name of a constant. -/
def typedNull : Typed Unit := fun cs =>
  match skipSpace cs with
  | 'n' :: rest => return ((), ← orMalformed (word ['u', 'l', 'l'] rest))
  | rest => .error (wrongKind rest)

/-- A given character between tokens. -/
def punctuation (c : Char) : Typed Unit := fun cs =>
  match skipSpace cs with
  | d :: rest => if c = d then .ok ((), rest) else .error .malformed
  | [] => .error .malformed

/-- A constant: its name, or an object with its name as the only key and null as the value. Anything
else in its place counts as malformed text. -/
def typedConstant (ofName? : String → Option α) : Typed α := fun cs =>
  match skipSpace cs with
  | '"' :: _ => do
    let (name, rest) ← typedText cs
    return (← orMismatched (ofName? name), rest)
  | '\x7b' :: rest => do
    let (name, rest) ← typedText rest
    let a ← orMismatched (ofName? name)
    let (_, rest) ← punctuation ':' rest
    let (_, rest) ← typedNull rest
    let (_, rest) ← punctuation '\x7d' rest
    return (a, rest)
  | _ => .error .malformed

/-! ## Containers -/

/-- The text of the next entry of a container, or of what follows its closing bracket. Between two
entries there is one comma, and none behind the last. -/
def nextEntry (closing : Char) (first : Bool) (cs : List Char) :
    Except TextFault (List Char ⊕ List Char) :=
  match skipSpace cs with
  | [] => .error .malformed
  | c :: rest =>
    if c = closing then .ok (.inr rest)
    else if first then .ok (.inl (c :: rest))
    else if c = ',' then
      match skipSpace rest with
      | [] => .error .malformed
      | d :: rest => if d = closing then .error .malformed else .ok (.inl (d :: rest))
    else .error .malformed

def typedItems (read : Typed α) : (fuel : Nat) → (first : Bool) → Typed (List α)
  | 0, _, _ => .error .malformed
  | fuel + 1, first, cs => do
    match ← nextEntry ']' first cs with
    | .inr rest => return ([], rest)
    | .inl entry =>
      let (a, rest) ← read entry
      let (as, rest) ← typedItems read fuel false rest
      return (a :: as, rest)

def typedList (read : Typed α) : Typed (List α) := fun cs =>
  match skipSpace cs with
  | '[' :: rest => typedItems read (rest.length + 1) true rest
  | rest => .error (wrongKind rest)

/-- A component of a structure: the keys that name it, and how it is added to what has been read. -/
structure Slot (σ : Type) where
  names : List String
  read : σ → Typed σ

/-- The components of a structure that is written as an array. It may stop early. -/
def typedComponents : List (Slot σ) → (first : Bool) → σ → Typed σ
  | [], _, s, cs => do
    let (_, rest) ← punctuation ']' cs
    return (s, rest)
  | slot :: slots, first, s, cs => do
    match ← nextEntry ']' first cs with
    | .inr rest => return (s, rest)
    | .inl entry =>
      let (s, rest) ← slot.read s entry
      typedComponents slots false s rest

/-- The members of a structure that is written as an object. A component given twice is noticed
before its second value is read. -/
def typedMembers (slots : List (Slot σ)) :
    (fuel : Nat) → (first : Bool) → (seen : List (List String)) → σ → Typed σ
  | 0, _, _, _, _ => .error .malformed
  | fuel + 1, first, seen, s, cs => do
    match ← nextEntry '\x7d' first cs with
    | .inr rest => return (s, rest)
    | .inl entry =>
      match entry with
      | '"' :: rest =>
        let (key, rest) ← orMalformed (stringBody rest)
        match slots.find? (·.names.contains (String.ofList key)) with
        | none =>
          let (_, rest) ← punctuation ':' rest
          let rest ← orMalformed (skipValue? (rest.length + 1) rest)
          typedMembers slots fuel false seen s rest
        | some slot =>
          if seen.contains slot.names then .error .mismatched
          let (_, rest) ← punctuation ':' rest
          let (s, rest) ← slot.read s rest
          typedMembers slots fuel false (slot.names :: seen) s rest
      | _ => .error .malformed

/-- A structure, given by its keys or by its components in order, starting from one in which nothing
has been set. -/
def typedStructure (slots : List (Slot σ)) (start : σ) : Typed σ := fun cs =>
  match skipSpace cs with
  | '[' :: rest => typedComponents slots true start rest
  | '\x7b' :: rest => typedMembers slots (rest.length + 1) true [] start rest
  | rest => .error (wrongKind rest)

def typedWhole (read : Typed α) (text : String) : Except TextFault α := do
  let (a, rest) ← read text.toList
  if (skipSpace rest).isEmpty then return a else .error .malformed

end SchemaFilter.Json
