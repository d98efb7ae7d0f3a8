import SchemaFilter.Pattern.Reader.Escaped

/-!
# Reading bracketed classes

A class in brackets lists characters, ranges, escapes, named classes and further classes in
brackets. Two ampersands, hyphens or tildes stand between classes and group to the left. A hyphen at
the start, or in front of a closing bracket or of another hyphen, is a literal, and so is a closing
bracket that comes first.
-/

namespace SchemaFilter.Pattern

open Cursor

def AsciiClass.ofName? (name : List Char) : Option AsciiClass :=
  match String.ofList name with
  | "alnum" => some .alnum
  | "alpha" => some .alpha
  | "ascii" => some .ascii
  | "blank" => some .blank
  | "cntrl" => some .cntrl
  | "digit" => some .digit
  | "graph" => some .graph
  | "lower" => some .lower
  | "print" => some .print
  | "punct" => some .punct
  | "space" => some .space
  | "upper" => some .upper
  | "word" => some .word
  | "xdigit" => some .xdigit
  | _ => none

/-- A named class such as `[:alpha:]`, if one stands here. -/
def asciiClass? (s : Cursor) : Option (ClassItem × Cursor) := do
  let s ← s.after? ['[', ':']
  let (negated, s) :=
    match s.after? ['^'] with
    | some s => (true, s)
    | none => (false, s)
  let name := s.rest.takeWhile (· != ':')
  let s ← (s.moveTo (s.rest.drop name.length)).after? [':', ']']
  return (.ascii negated (← AsciiClass.ofName? name), s)

/-- One character or escape of a class. -/
def classPrimitive : CursorReader Tree := fun s =>
  match s.rest with
  | '\\' :: _ => escaped s.skip
  | c :: _ => some (.literal ⟨c, false⟩, s.skip)
  | [] => none

/-- A character or escape as an item. Conditions have no place in a class. -/
def ClassItem.ofTree? : Tree → Option ClassItem
  | .literal l => some (.literal l)
  | .letters negated name => some (.letters negated name)
  | .property negated query => some (.property negated query)
  | _ => none

/-- The literal that an end of a range has to be. -/
def literal? : Tree → Option Literal
  | .literal l => some l
  | _ => none

/-- The character behind the next one that decides whether a hyphen opens the second half of a
range. In extended text blanks are passed over, and the first number sign with the blanks behind it.
-/
def secondAhead? (s : Cursor) : Option Char :=
  let ahead := s.rest.drop 1
  if s.extended then
    match ahead.dropWhile Text.isBlank with
    | '#' :: rest => (rest.dropWhile Text.isBlank).head?
    | rest => rest.head?
  else ahead.head?

/-- A character, an escape or a range. -/
def classRange : CursorReader ClassItem := fun s => do
  let (first, s) ← classPrimitive s
  let s := s.settle
  match s.rest with
  | [] => none
  | '-' :: _ =>
    if secondAhead? s = some ']' ∨ secondAhead? s = some '-' then
      return (← ClassItem.ofTree? first, s)
    let (second, s) ← classPrimitive s.next
    let low ← literal? first
    let high ← literal? second
    if low.char ≤ high.char then return (.range low high, s) else none
  | _ => return (← ClassItem.ofTree? first, s)

/-- Hyphens at the start of a class. -/
def leadingHyphens : (fuel : Nat) → Cursor → List ClassItem × Cursor
  | 0, s => ([], s)
  | fuel + 1, s =>
    match s.rest with
    | '-' :: _ =>
      let (items, s) := leadingHyphens fuel s.next
      (.literal ⟨'-', false⟩ :: items, s)
    | _ => ([], s)

/-- The opening bracket of a class with the items that are literal only there: whether the class is
negated, and those items. -/
def openClass : Cursor → (Bool × List ClassItem) × Cursor := fun s =>
  let s := s.next
  let (negated, s) :=
    match s.rest with
    | '^' :: _ => (true, s.next)
    | _ => (false, s)
  let (hyphens, s) := leadingHyphens s.rest.length s
  match hyphens, s.rest with
  | [], ']' :: _ => ((negated, [.literal ⟨']', false⟩]), s.next)
  | _, _ => ((negated, hyphens), s)

def classOperator? (s : Cursor) : Option (ClassOperator × Cursor) :=
  match s.rest with
  | '&' :: '&' :: _ => some (.intersection, s.skip.skip)
  | '-' :: '-' :: _ => some (.difference, s.skip.skip)
  | '~' :: '~' :: _ => some (.symmetricDifference, s.skip.skip)
  | _ => none

/-- The content so far: the operand on the left with its operator, if there is one, and the items.
-/
def closeOperand (left : Option (ClassOperator × ClassSet)) (items : List ClassItem) : ClassSet :=
  match left with
  | none => .items items
  | some (op, set) => .binary op set (.items items)

/-- The content of a class up to its closing bracket. -/
def classContent : (fuel : Nat) → (left : Option (ClassOperator × ClassSet)) → List ClassItem →
    CursorReader ClassSet
  | 0, _, _, _ => none
  | fuel + 1, left, items, s =>
    let s := s.settle
    match classOperator? s with
    | some (op, s) => classContent fuel (some (op, closeOperand left items)) [] s
    | none =>
      match s.rest with
      | [] => none
      | ']' :: _ => some (closeOperand left items, s.skip)
      | '[' :: _ =>
        match asciiClass? s with
        | some (item, s) => classContent fuel left (items ++ [item]) s
        | none => do
          let ((negated, start), s) := openClass s
          let (set, s) ← classContent fuel none start s
          classContent fuel left (items ++ [.bracketed negated set]) s
      | _ => do
        let (item, s) ← classRange s
        classContent fuel left (items ++ [item]) s

def bracketed : CursorReader Tree := fun s => do
  let ((negated, start), s) := openClass s
  let (set, s) ← classContent (s.rest.length + 1) none start s
  return (.bracketed negated set, s)

end SchemaFilter.Pattern
