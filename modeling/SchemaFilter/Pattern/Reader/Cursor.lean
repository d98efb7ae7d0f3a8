import SchemaFilter.Pattern.Tree
import SchemaFilter.Text.Blank

/-!
# Reading positions

A cursor is a place in a pattern text, with what the text before it has settled: whether blanks
count and which group names are taken. In extended text blanks and comments mean nothing, and
`settle` passes over them; a comment runs from a number sign to the end of its line.
-/

namespace SchemaFilter.Pattern

/-- A place in a pattern text. -/
structure Cursor where
  rest : List Char
  extended : Bool
  /-- The group names used so far. -/
  names : List (List Char)
deriving Inhabited

/-- A reader takes something from a place on. -/
abbrev CursorReader (α : Type) := Cursor → Option (α × Cursor)

/-- A text without leading blanks and comments. -/
def skipBlanks : (comment : Bool) → List Char → List Char
  | _, [] => []
  | true, c :: cs => skipBlanks (c != '\n') cs
  | false, c :: cs =>
    if Text.isBlank c then skipBlanks false cs
    else if c = '#' then skipBlanks true cs
    else c :: cs

namespace Cursor

/-- The place after what means nothing in extended text. -/
def settle (s : Cursor) : Cursor :=
  if s.extended then { s with rest := skipBlanks false s.rest } else s

def moveTo (s : Cursor) (rest : List Char) : Cursor :=
  { s with rest }

def skip (s : Cursor) : Cursor :=
  s.moveTo (s.rest.drop 1)

/-- The place after the next character and all that means nothing behind it. -/
def next (s : Cursor) : Cursor :=
  s.skip.settle

/-- Characters that pass a test, from as many places as there is fuel. -/
def takeSettled (test : Char → Bool) : (fuel : Nat) → Cursor → List Char × Cursor
  | 0, s => ([], s)
  | fuel + 1, s =>
    match s.rest with
    | c :: _ =>
      if test c then
        let (taken, s) := takeSettled test fuel s.next
        (c :: taken, s)
      else ([], s)
    | [] => ([], s)

def takeWhile (test : Char → Bool) (s : Cursor) : List Char × Cursor :=
  s.takeSettled test s.rest.length

def expect (c : Char) : CursorReader Unit := fun s =>
  match s.rest with
  | d :: _ => if c = d then some ((), s.skip) else none
  | [] => none

/-- The place after a text, if it stands here. -/
def after? (s : Cursor) (text : List Char) : Option Cursor :=
  if text.isPrefixOf s.rest then some (s.moveTo (s.rest.drop text.length)) else none

end Cursor

end SchemaFilter.Pattern
