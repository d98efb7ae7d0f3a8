import SchemaFilter.Json.Token
import SchemaFilter.Pattern.Escape
import SchemaFilter.Pattern.Reader.Cursor

/-!
# Reading escapes

What a backslash makes of the characters behind it: a literal, a class or a condition. Punctuation
of ASCII stands for itself; letters and digits that name nothing are refused.
-/

namespace SchemaFilter.Pattern

open Cursor

/-- The character that hexadecimal digits write, if there is one. -/
def charOfHex? (digits : List Char) : Option Char := do
  let values ← digits.mapM Json.hexValue?
  if values.isEmpty then none
  let n := values.foldl (fun n d => 16 * n + d) 0
  if h : n.isValidChar then some (Char.ofNatAux n h) else none

def isHexDigit (c : Char) : Bool :=
  (Json.hexValue? c).isSome

def hexDigits : (count : Nat) → CursorReader (List Char)
  | 0, s => some ([], s)
  | count + 1, s =>
    match s.rest with
    | c :: _ => do
      if !isHexDigit c then none
      let (digits, s) ← hexDigits count s.next
      return (c :: digits, s)
    | [] => none

/-- A character written in hexadecimal, either in braces or in a fixed number of digits. Two digits
without braces may stand for a byte. -/
def hexLiteral (count : Nat) : CursorReader Literal := fun s => do
  let s := s.next
  match s.rest with
  | '\x7b' :: _ =>
    let (digits, s) := s.next.takeWhile isHexDigit
    let (_, s) ← expect '\x7d' s
    return (⟨← charOfHex? digits, false⟩, s.settle)
  | _ =>
    let (digits, s) ← hexDigits count s
    return (⟨← charOfHex? digits, count == 2⟩, s)

/-- The parts of a text before and after the first place where another one stands. -/
def splitFirst? (separator : List Char) : List Char → Option (List Char × List Char)
  | [] => none
  | c :: cs =>
    if separator.isPrefixOf (c :: cs) then some ([], (c :: cs).drop separator.length)
    else (splitFirst? separator cs).map fun (before, after) => (c :: before, after)

/-- The property that the text between braces names. A value may follow a colon or either of two
equality signs, which mean the same. -/
def PropertyQuery.ofText (cs : List Char) : PropertyQuery :=
  match splitFirst? ['!', '='] cs <|> splitFirst? [':'] cs <|> splitFirst? ['='] cs with
  | some (name, value) => .valued (String.ofList name) (String.ofList value)
  | none => .named (String.ofList cs)

/-- A property after its letter. -/
def propertyQuery : CursorReader PropertyQuery := fun s => do
  let s := s.next
  match s.rest with
  | '\x7b' :: _ =>
    let (name, s) := s.next.takeWhile (· != '\x7d')
    let (_, s) ← expect '\x7d' s
    return (.ofText name, s)
  | '\\' :: _ => none
  | c :: _ => return (.letter c, s.next)
  | [] => none

/-- The condition that a name in braces turns a word boundary into. -/
def boundaryOfName? (name : List Char) : Option Anchor :=
  match String.ofList name with
  | "start" => some .wordStart
  | "end" => some .wordEnd
  | "start-half" => some .wordStartHalf
  | "end-half" => some .wordEndHalf
  | _ => none

def isBoundaryNameChar (c : Char) : Bool :=
  c == '-' || c.isAlpha

/-- A word boundary, with its name in braces if one follows. Braces with anything else in them are a
repetition and stay where they are. -/
def boundary : CursorReader Anchor := fun s =>
  match s.rest with
  | '\x7b' :: _ =>
    let inside := s.next
    match inside.rest with
    | [] => none
    | c :: _ =>
      if isBoundaryNameChar c then do
        let (name, s) := inside.takeWhile isBoundaryNameChar
        let (_, s) ← expect '\x7d' s
        return (← boundaryOfName? name, s)
      else some (.boundary, s)
  | _ => some (.boundary, s)

/-- Whether a character stands for itself after a backslash: punctuation, blanks and controls of
ASCII except angle brackets. -/
def isEscapable (c : Char) : Bool :=
  isMeta c || (c.toNat < 128 && !c.isAlphanum && c != '<' && c != '>')

def controlOfLetter? : Char → Option Char
  | 'a' => some '\x07'
  | 'f' => some '\x0c'
  | 't' => some '\t'
  | 'n' => some '\n'
  | 'r' => some '\r'
  | 'v' => some '\x0b'
  | _ => none

/-- The condition that an escaped character stands for, word boundaries aside. -/
def anchorOfLetter? : Char → Option Anchor
  | 'A' => some .textStart
  | 'z' => some .textEnd
  | 'B' => some .notBoundary
  | '<' => some .wordStart
  | '>' => some .wordEnd
  | _ => none

/-- The class that an escaped letter stands for, and whether it is negated. -/
def classOfLetter? : Char → Option (Bool × LetterClass)
  | 'd' => some (false, .digit)
  | 's' => some (false, .space)
  | 'w' => some (false, .word)
  | 'D' => some (true, .digit)
  | 'S' => some (true, .space)
  | 'W' => some (true, .word)
  | _ => none

def hexCount? : Char → Option Nat
  | 'x' => some 2
  | 'u' => some 4
  | 'U' => some 8
  | _ => none

/-- What follows a backslash; the place is that of the character behind it. -/
def escaped : CursorReader Tree := fun s =>
  match s.rest with
  | [] => none
  | c :: _ =>
    if isEscapable c then some (.literal ⟨c, false⟩, s.skip)
    else
      match hexCount? c, classOfLetter? c, controlOfLetter? c, anchorOfLetter? c with
      | some count, _, _, _ => (hexLiteral count s).map fun (l, s) => (.literal l, s)
      | _, some (negated, name), _, _ => some (.letters negated name, s.skip)
      | _, _, some control, _ => some (.literal ⟨control, false⟩, s.skip)
      | _, _, _, some anchor => some (.anchor anchor, s.skip)
      | _, _, _, _ =>
        if c = 'b' then (boundary s.skip).map fun (a, s) => (.anchor a, s)
        else if c = 'p' ∨ c = 'P' then
          (propertyQuery s).map fun (q, s) => (.property (c == 'P') q, s)
        else none

end SchemaFilter.Pattern
