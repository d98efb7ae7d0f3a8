/-!
# Pattern trees

The structure of a pattern as written. Flags are kept where they stand, and classes keep their
nesting; what they mean is settled when a `Pattern` is built from the tree.
-/

namespace SchemaFilter.Pattern

inductive Flag where
  | ignoreCase
  | multiLine
  | dotAll
  | swapGreed
  | unicode
  | eitherLineEnd
  | extended
deriving DecidableEq, Repr

/-- A flag and whether it is switched on. -/
abbrev FlagChange := Flag × Bool

/-- A condition as written. -/
inductive Anchor where
  | lineStart
  | lineEnd
  | textStart
  | textEnd
  | boundary
  | notBoundary
  | wordStart
  | wordEnd
  | wordStartHalf
  | wordEndHalf
deriving DecidableEq, Repr

/-- The classes that an escaped letter names. -/
inductive LetterClass where
  | digit
  | space
  | word
deriving DecidableEq, Repr

/-- A property as written: a name, or a name with a value. -/
inductive PropertyQuery where
  | letter (c : Char)
  | named (name : String)
  | valued (name value : String)
deriving Repr

inductive AsciiClass where
  | alnum | alpha | ascii | blank | cntrl | digit | graph | lower | print | punct | space | upper
  | word | xdigit
deriving DecidableEq, Repr

inductive ClassOperator where
  | intersection
  | difference
  | symmetricDifference
deriving DecidableEq, Repr

/-- A literal character. A character written with two hexadecimal digits may stand for a byte. -/
structure Literal where
  char : Char
  isByte : Bool := false
deriving Repr, Inhabited

mutual

inductive ClassItem where
  | literal (l : Literal)
  | range (low high : Literal)
  | ascii (negated : Bool) (name : AsciiClass)
  | letters (negated : Bool) (name : LetterClass)
  | property (negated : Bool) (query : PropertyQuery)
  | bracketed (negated : Bool) (set : ClassSet)

inductive ClassSet where
  | items (list : List ClassItem)
  | binary (op : ClassOperator) (left right : ClassSet)

end

instance : Inhabited ClassSet := ⟨.items []⟩

/-- A pattern as written. -/
inductive Tree where
  | empty
  | flags (changes : List FlagChange)
  | literal (l : Literal)
  | dot
  | anchor (a : Anchor)
  | letters (negated : Bool) (name : LetterClass)
  | property (negated : Bool) (query : PropertyQuery)
  | bracketed (negated : Bool) (set : ClassSet)
  | repetition (t : Tree) (least : Nat) (most : Option Nat)
  | group (changes : List FlagChange) (t : Tree)
  | alternation (branches : List Tree)
  | concatenation (parts : List Tree)
deriving Inhabited

mutual

def ClassItem.depth : ClassItem → Nat
  | .bracketed _ set => set.depth + 1
  | _ => 0

/-- How deep the content of a class is nested. Several items count as one level. -/
def ClassSet.depth : ClassSet → Nat
  | .items [] => 0
  | .items [item] => item.depth
  | .items list => ClassSet.itemsDepth list + 1
  | .binary _ left right => max left.depth right.depth + 1

def ClassSet.itemsDepth : List ClassItem → Nat
  | [] => 0
  | item :: rest => max item.depth (ClassSet.itemsDepth rest)

end

mutual

def Tree.depth : Tree → Nat
  | .bracketed _ set => set.depth + 1
  | .repetition t _ _ => t.depth + 1
  | .group _ t => t.depth + 1
  | .alternation branches => Tree.listDepth branches + 1
  | .concatenation parts => Tree.listDepth parts + 1
  | _ => 0

def Tree.listDepth : List Tree → Nat
  | [] => 0
  | t :: rest => max t.depth (Tree.listDepth rest)

end

end SchemaFilter.Pattern
