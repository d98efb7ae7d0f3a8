import SchemaFilter.Unicode.BinaryProperty
import SchemaFilter.Unicode.CaseFolding
import SchemaFilter.Unicode.GeneralCategory

/-!
# Patterns

A pattern describes the stretches of a text that it spans. It is built from single characters drawn
from a class, conditions on the place between two characters, sequence, choice and repetition.

Flags do not appear here: a pattern that ignores case has classes that are closed under case
folding, and the meaning of line ends is chosen when the pattern is built.
-/

namespace SchemaFilter

/-- A set of characters. -/
inductive CharClass where
  /-- No character. -/
  | none
  | single (c : Char)
  /-- The characters that fold like `c`. -/
  | caseless (c : Char)
  | range (low high : Char)
  | property (r : Unicode.Ranges)
  | union (a b : CharClass)
  | intersection (a b : CharClass)
  | difference (a b : CharClass)
  | symmetricDifference (a b : CharClass)
  | complement (a : CharClass)
  /-- The characters that are equal to a member up to case. -/
  | folded (a : CharClass)
  /-- The characters that are equal to a member up to the case of letters of ASCII. -/
  | foldedAscii (a : CharClass)
deriving Inhabited

namespace CharClass

def contains : CharClass → Char → Bool
  | none, _ => false
  | single d, c => c == d
  | caseless d, c => Unicode.fold c == Unicode.fold d
  | range low high, c => low ≤ c && c ≤ high
  | property r, c => r.contains c
  | union a b, c => a.contains c || b.contains c
  | intersection a b, c => a.contains c && b.contains c
  | difference a b, c => a.contains c && !b.contains c
  | symmetricDifference a b, c => a.contains c != b.contains c
  | complement a, c => !a.contains c
  | folded a, c => (Unicode.variants c).any a.contains
  | foldedAscii a, c => a.contains c || a.contains c.toLower || a.contains c.toUpper

/-- The union of a list of classes. -/
def unions : List CharClass → CharClass
  | [] => none
  | [a] => a
  | a :: rest => union a (unions rest)

def any : CharClass :=
  complement none

/-- Decimal digits of all scripts. -/
def digit : CharClass :=
  property Unicode.GeneralCategory.decimalNumber

def space : CharClass :=
  property Unicode.BinaryProperty.whiteSpace

/-- The characters of words: letters, marks, decimal digits, connectors and joiners. -/
def word : CharClass :=
  unions [range '0' '9', range 'A' 'Z', range 'a' 'z', single '_',
    property Unicode.BinaryProperty.alphabetic,
    property Unicode.GeneralCategory.nonspacingMark,
    property Unicode.GeneralCategory.spacingMark,
    property Unicode.GeneralCategory.enclosingMark,
    property Unicode.GeneralCategory.decimalNumber,
    property Unicode.GeneralCategory.connectorPunctuation,
    property Unicode.BinaryProperty.joinControl]

def asciiDigit : CharClass :=
  range '0' '9'

def asciiSpace : CharClass :=
  union (range '\t' '\r') (single ' ')

def asciiWord : CharClass :=
  unions [range '0' '9', range 'A' 'Z', single '_', range 'a' 'z']

end CharClass

/-- A condition on the place between two characters. -/
inductive Assertion where
  | startText
  | endText
  | startLine
  | endLine
  /-- Lines end with a carriage return, a line feed or both together. -/
  | startLineEither
  | endLineEither
  | wordBoundary (word : CharClass)
  | notWordBoundary (word : CharClass)
  | wordStart (word : CharClass)
  | wordEnd (word : CharClass)
  | wordStartHalf (word : CharClass)
  | wordEndHalf (word : CharClass)
deriving Inhabited

namespace Assertion

def inWord (word : CharClass) : Option Char → Bool
  | some c => word.contains c
  | none => false

/-- Whether a condition holds between two neighbours, either of which may be the end of the text. -/
def holds (before after : Option Char) : Assertion → Bool
  | startText => before.isNone
  | endText => after.isNone
  | startLine => before.isNone || before == some '\n'
  | endLine => after.isNone || after == some '\n'
  | startLineEither =>
    before.isNone || before == some '\n' || (before == some '\r' && after != some '\n')
  | endLineEither =>
    after.isNone || after == some '\r' || (after == some '\n' && before != some '\r')
  | wordBoundary w => inWord w before != inWord w after
  | notWordBoundary w => inWord w before == inWord w after
  | wordStart w => !inWord w before && inWord w after
  | wordEnd w => inWord w before && !inWord w after
  | wordStartHalf w => !inWord w before
  | wordEndHalf w => !inWord w after

end Assertion

/-- A pattern. -/
inductive Pattern where
  | empty
  | char (c : CharClass)
  | assertion (a : Assertion)
  | sequence (p q : Pattern)
  | choice (p q : Pattern)
  /-- At least `least` and, if it is given, at most `most` times. -/
  | repetition (p : Pattern) (least : Nat) (most : Option Nat)
deriving Inhabited

namespace Pattern

/-- Patterns one after the other. -/
def sequences : List Pattern → Pattern
  | [] => empty
  | [p] => p
  | p :: rest => sequence p (sequences rest)

/-- One pattern out of several, of which there is at least one. -/
def choices (first : Pattern) : List Pattern → Pattern
  | [] => first
  | p :: rest => choice first (choices p rest)

end Pattern

end SchemaFilter
