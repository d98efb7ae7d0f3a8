import SchemaFilter.Pattern.Reader.Bracket
import SchemaFilter.Unicode.BinaryProperty
import SchemaFilter.Unicode.GeneralCategory

/-!
# Reading patterns

`Tree.read?` reads a pattern text. It refuses unbalanced groups and brackets, repetitions of
nothing, references, conditions on the text ahead or behind, repeated group names and unknown
escapes. Trees that are nested too deeply are refused as well.
-/

namespace SchemaFilter.Pattern

open Cursor

def nestingLimit : Nat := 250

/-- The greatest count of a repetition is below this number. -/
def countLimit : Nat := Nat.pow 2 32

/-! ## Groups -/

def Flag.ofLetter? : Char → Option Flag
  | 'i' => some .ignoreCase
  | 'm' => some .multiLine
  | 's' => some .dotAll
  | 'U' => some .swapGreed
  | 'u' => some .unicode
  | 'R' => some .eitherLineEnd
  | 'x' => some .extended
  | _ => none

/-- Flags up to a colon or a closing parenthesis. No flag comes twice, and a minus sign comes once,
with flags behind it. -/
def flagChanges : (changes : List FlagChange) → (negated : Bool) → List Char →
    Option (List FlagChange × List Char)
  | _, _, [] => none
  | changes, negated, c :: rest =>
    if c = ':' ∨ c = ')' then some (changes, c :: rest)
    else if c = '-' then
      match rest with
      | [] => none
      | d :: _ => if negated || d == ':' || d == ')' then none else flagChanges changes true rest
    else do
      let flag ← Flag.ofLetter? c
      if changes.any (·.1 == flag) then none
      flagChanges (changes ++ [(flag, !negated)]) negated rest

def applied (changes : List FlagChange) (flag : Flag) (setting : Bool) : Bool :=
  (changes.lookup flag).getD setting

def isNameStart (c : Char) : Bool :=
  c == '_' || Unicode.BinaryProperty.alphabetic.contains c

def isNameChar (c : Char) : Bool :=
  isNameStart c || c == '.' || c == '[' || c == ']' ||
    Unicode.GeneralCategory.decimalNumber.contains c ||
    Unicode.GeneralCategory.letterNumber.contains c ||
    Unicode.GeneralCategory.otherNumber.contains c

/-- A new group name up to its closing angle bracket. -/
def groupName : CursorReader Unit := fun s => do
  let name := s.rest.takeWhile (· != '>')
  let (_, s') ← expect '>' (s.moveTo (s.rest.drop name.length))
  match name with
  | [] => none
  | c :: cs =>
    if isNameStart c && cs.all isNameChar && !s.names.contains name then
      return ((), { s' with names := name :: s.names })
    else none

/-- What the opening parenthesis of a group starts. -/
inductive Opening where
  /-- Flags for the rest of the group around. -/
  | flags (changes : List FlagChange)
  /-- A group with flags of its own. -/
  | group (changes : List FlagChange)

def opening : CursorReader Opening := fun s =>
  let s := s.settle
  match s.rest with
  | '?' :: rest =>
    match rest with
    | '=' :: _ => none
    | '!' :: _ => none
    | '<' :: '=' :: _ => none
    | '<' :: '!' :: _ => none
    | '<' :: rest => (groupName (s.moveTo rest)).map fun (_, s) => (.group [], s)
    | 'P' :: '<' :: rest => (groupName (s.moveTo rest)).map fun (_, s) => (.group [], s)
    | _ => do
      match ← flagChanges [] false rest with
      | (changes, ':' :: rest) => return (.group changes, s.moveTo rest)
      | (changes, _ :: rest) =>
        if changes.isEmpty then none else return (.flags changes, s.moveTo rest)
      | _ => none
  | _ => some (.group [], s)

/-! ## Repetitions -/

def isRepeatable : Tree → Bool
  | .empty => false
  | .flags _ => false
  | _ => true

/-- A count, with blanks around it. -/
def count : CursorReader Nat := fun s =>
  let (digits, s) := (s.moveTo (s.rest.dropWhile Text.isBlank)).takeWhile Char.isDigit
  let (_, s) := s.takeWhile Text.isBlank
  let n := Json.natOfDigits digits
  if digits.isEmpty || countLimit ≤ n then none else some (n, s)

/-- The place after a question mark, if one stands here. Whether a repetition prefers few turns does
not change what a pattern matches. -/
def skipLazy (s : Cursor) : Cursor :=
  (s.after? ['?']).getD s

/-- The greatest number of turns behind the least one: the same number, another one behind a comma,
or none if nothing follows the comma. -/
def upperCount (least : Nat) : CursorReader (Option Nat) := fun s =>
  match s.rest with
  | ',' :: _ =>
    let s := s.next
    match s.rest with
    | '\x7d' :: _ => some (none, s)
    | _ => (count s).map fun (most, s) => (some most, s)
  | _ => some (some least, s)

/-- The counts of a repetition behind its opening brace. -/
def counts : CursorReader (Nat × Option Nat) := fun s => do
  let (least, s) ← count s.settle
  let (most, s) ← upperCount least s
  let (_, s) ← expect '\x7d' s
  if most.any (· < least) then none
  return ((least, most), skipLazy s.settle)

/-! ## Patterns -/

def Tree.ofParts : List Tree → Tree
  | [] => .empty
  | [t] => t
  | parts => .concatenation parts

def Tree.ofBranches : List Tree → Tree
  | [t] => t
  | branches => .alternation branches

/-- The last part, which a repetition applies to, and the parts before it; all in reverse order. -/
def repeated? : List Tree → Option (Tree × List Tree)
  | t :: before => if isRepeatable t then some (t, before) else none
  | [] => none

/-- A tree up to the end of its group. `branches` and `parts` are what has been read of it, in
reverse order. -/
def body : (fuel : Nat) → (branches parts : List Tree) → CursorReader Tree
  | 0, _, _, _ => none
  | fuel + 1, branches, parts, s =>
    let s := s.settle
    let finish : Tree := .ofBranches (.ofParts parts.reverse :: branches).reverse
    match s.rest with
    | [] => some (finish, s)
    | ')' :: _ => some (finish, s)
    | '(' :: rest => do
      match ← opening (s.moveTo rest) with
      | (.flags changes, s) =>
        let s := { s with extended := applied changes .extended s.extended }
        body fuel branches (.flags changes :: parts) s
      | (.group changes, inner) =>
        let (t, s') ←
          body fuel [] [] { inner with extended := applied changes .extended inner.extended }
        let (_, s') ← expect ')' s'
        body fuel branches (.group changes t :: parts) { s' with extended := s.extended }
    | '|' :: rest => body fuel (.ofParts parts.reverse :: branches) [] (s.moveTo rest)
    | '[' :: _ => do
      let (t, s) ← bracketed s
      body fuel branches (t :: parts) s
    | '?' :: rest => do
      let (t, before) ← repeated? parts
      body fuel branches (.repetition t 0 (some 1) :: before) (skipLazy (s.moveTo rest))
    | '*' :: rest => do
      let (t, before) ← repeated? parts
      body fuel branches (.repetition t 0 none :: before) (skipLazy (s.moveTo rest))
    | '+' :: rest => do
      let (t, before) ← repeated? parts
      body fuel branches (.repetition t 1 none :: before) (skipLazy (s.moveTo rest))
    | '\x7b' :: rest => do
      let (t, before) ← repeated? parts
      let ((least, most), s) ← counts (s.moveTo rest)
      body fuel branches (.repetition t least most :: before) s
    | '\\' :: rest => do
      let (t, s) ← escaped (s.moveTo rest)
      body fuel branches (t :: parts) s
    | '.' :: rest => body fuel branches (.dot :: parts) (s.moveTo rest)
    | '^' :: rest => body fuel branches (.anchor .lineStart :: parts) (s.moveTo rest)
    | '$' :: rest => body fuel branches (.anchor .lineEnd :: parts) (s.moveTo rest)
    | c :: rest => body fuel branches (.literal ⟨c, false⟩ :: parts) (s.moveTo rest)

/-- The tree of a pattern text, if it is well formed. -/
def Tree.read? (extended : Bool) (text : List Char) : Option Tree := do
  let (t, s) ← body (text.length + 1) [] [] ⟨text, extended, []⟩
  if s.rest.isEmpty && t.depth ≤ nestingLimit then return t else none

end SchemaFilter.Pattern
