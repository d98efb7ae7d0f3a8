import SchemaFilter.Pattern.Property
import SchemaFilter.Pattern.Reader

/-!
# Building patterns

`Tree.build` gives a tree its meaning under the flags that hold where it stands. Flags set inside a
group hold up to its end. Without the Unicode flag classes are those of ASCII, and what could stand
for single bytes is refused.

`Pattern.compile?` reads a pattern text and builds it; a pattern that would grow too large is
refused.
-/

namespace SchemaFilter.Pattern

/-- The flags that hold at some place. -/
structure Settings where
  ignoreCase : Bool := false
  multiLine : Bool := false
  dotAll : Bool := false
  extended : Bool := false
  eitherLineEnd : Bool := false
  unicode : Bool := true
deriving DecidableEq, Repr, Inhabited

namespace Settings

def apply (s : Settings) (changes : List FlagChange) : Settings where
  ignoreCase := applied changes .ignoreCase s.ignoreCase
  multiLine := applied changes .multiLine s.multiLine
  dotAll := applied changes .dotAll s.dotAll
  extended := applied changes .extended s.extended
  eitherLineEnd := applied changes .eitherLineEnd s.eitherLineEnd
  unicode := applied changes .unicode s.unicode

/-- A class that ignores case if the settings say so. -/
def foldClass (s : Settings) (a : CharClass) : CharClass :=
  if !s.ignoreCase then a else if s.unicode then .folded a else .foldedAscii a

/-- A class, folded first and then negated. Without Unicode a negated class would hold bytes that
are no characters. -/
def foldAndNegate (s : Settings) (negated : Bool) (a : CharClass) : Option CharClass :=
  if !negated then some (s.foldClass a)
  else if s.unicode then some (.complement (s.foldClass a))
  else none

end Settings

def AsciiClass.chars : AsciiClass → CharClass
  | alnum => .unions [.range '0' '9', .range 'A' 'Z', .range 'a' 'z']
  | alpha => .union (.range 'A' 'Z') (.range 'a' 'z')
  | ascii => .range '\x00' '\x7f'
  | blank => .union (.single '\t') (.single ' ')
  | cntrl => .union (.range '\x00' '\x1f') (.single '\x7f')
  | digit => .range '0' '9'
  | graph => .range '!' '~'
  | lower => .range 'a' 'z'
  | print => .range ' ' '~'
  | punct => .unions [.range '!' '/', .range ':' '@', .range '[' '\x60', .range '\x7b' '~']
  | space => .union (.range '\t' '\r') (.single ' ')
  | upper => .range 'A' 'Z'
  | word => CharClass.asciiWord
  | xdigit => .unions [.range '0' '9', .range 'A' 'F', .range 'a' 'f']

def LetterClass.chars (unicode : Bool) : LetterClass → CharClass
  | digit => if unicode then CharClass.digit else CharClass.asciiDigit
  | space => if unicode then CharClass.space else CharClass.asciiSpace
  | word => if unicode then CharClass.word else CharClass.asciiWord

/-- The class of an escaped letter. These classes are closed under case folding as they are. -/
def LetterClass.build (s : Settings) (negated : Bool) (name : LetterClass) : Option CharClass :=
  if !negated then some (name.chars s.unicode)
  else if s.unicode then some (.complement (name.chars true))
  else none

def PropertyQuery.build (s : Settings) (negated : Bool) (query : PropertyQuery) :
    Option CharClass := do
  if !s.unicode then none
  s.foldAndNegate negated (← query.class?)

/-- The character that a literal stands for. A byte beyond ASCII is no character. -/
def Literal.scalar? (s : Settings) (l : Literal) : Option Char :=
  if !s.unicode && l.isByte && 128 ≤ l.char.toNat then none else some l.char

/-- The character that a literal adds to a class. -/
def Literal.member? (s : Settings) (l : Literal) : Option Char := do
  let c ← l.scalar? s
  if !s.unicode && 128 ≤ c.toNat then none else some c

mutual

def ClassItem.build (s : Settings) : ClassItem → Option CharClass
  | .literal l => (l.member? s).map .single
  | .range low high => do return .range (← low.member? s) (← high.member? s)
  | .ascii negated name => s.foldAndNegate negated name.chars
  | .letters negated name => name.build s negated
  | .property negated query => query.build s negated
  | .bracketed negated set => do s.foldAndNegate negated (← set.build s)

/-- The class of the content of brackets, not yet folded as a whole. -/
def ClassSet.build (s : Settings) : ClassSet → Option CharClass
  | .items list => do return .unions (← ClassItem.buildAll s list)
  | .binary op left right => do
    let a := s.foldClass (← left.build s)
    let b := s.foldClass (← right.build s)
    return match op with
      | .intersection => .intersection a b
      | .difference => .difference a b
      | .symmetricDifference => .symmetricDifference a b

def ClassItem.buildAll (s : Settings) : List ClassItem → Option (List CharClass)
  | [] => some []
  | item :: rest => do return (← item.build s) :: (← ClassItem.buildAll s rest)

end

/-- The class of any character that a dot stands for. -/
def dotClass (s : Settings) : Option CharClass :=
  if !s.unicode then none
  else if s.dotAll then some .any
  else if s.eitherLineEnd then some (.complement (.union (.single '\r') (.single '\n')))
  else some (.complement (.single '\n'))

def Literal.build (s : Settings) (l : Literal) : Option CharClass := do
  let c ← l.scalar? s
  return if !s.ignoreCase then .single c
    else if s.unicode then .caseless c
    else if c.isAlpha then .foldedAscii (.single c)
    else .single c

def Anchor.build (s : Settings) (a : Anchor) : Assertion :=
  let word := LetterClass.word.chars s.unicode
  match a with
  | lineStart =>
    if !s.multiLine then .startText else if s.eitherLineEnd then .startLineEither else .startLine
  | lineEnd =>
    if !s.multiLine then .endText else if s.eitherLineEnd then .endLineEither else .endLine
  | textStart => .startText
  | textEnd => .endText
  | boundary => .wordBoundary word
  | notBoundary => .notWordBoundary word
  | wordStart => .wordStart word
  | wordEnd => .wordEnd word
  | wordStartHalf => .wordStartHalf word
  | wordEndHalf => .wordEndHalf word

mutual

/-- The pattern of a tree, and the settings for what follows it. -/
def Tree.build (s : Settings) : Tree → Option (Pattern × Settings)
  | .empty => some (.empty, s)
  | .flags changes => some (.empty, s.apply changes)
  | .literal l => do return (.char (← l.build s), s)
  | .dot => do return (.char (← dotClass s), s)
  | .anchor a => some (.assertion (a.build s), s)
  | .letters negated name => do return (.char (← name.build s negated), s)
  | .property negated query => do return (.char (← query.build s negated), s)
  | .bracketed negated set => do
    return (.char (← s.foldAndNegate negated (← set.build s)), s)
  | .repetition t least most => do
    let (p, s) ← t.build s
    return (.repetition p least most, s)
  | .group changes t => do
    let (p, _) ← t.build (s.apply changes)
    return (p, s)
  | .alternation branches => do
    match ← Tree.buildAll s branches with
    | ([], s) => return (.empty, s)
    | (first :: rest, s) => return (choices first rest, s)
  | .concatenation parts => do
    let (ps, s) ← Tree.buildAll s parts
    return (sequences ps, s)

/-- The patterns of a list of trees, each under the settings that the ones before it leave. -/
def Tree.buildAll (s : Settings) : List Tree → Option (List Pattern × Settings)
  | [] => some ([], s)
  | t :: rest => do
    let (p, s) ← t.build s
    let (ps, s) ← Tree.buildAll s rest
    return (p :: ps, s)

end

/-! ## Size -/

/-- Whether a pattern can only span the empty stretch. -/
def isEmptyOnly : Pattern → Bool
  | empty => true
  | char _ => false
  | assertion _ => true
  | sequence p q => p.isEmptyOnly && q.isEmptyOnly
  | choice p q => p.isEmptyOnly && q.isEmptyOnly
  | repetition p _ most => p.isEmptyOnly || most == some 0

/-- The memory that a class takes, roughly and in bytes. -/
def classSize : CharClass → Nat
  | .none => 32
  | .single c => 32 * c.utf8Size
  | .caseless _ => 96
  | .range _ _ => 96
  | .property r => 64 * r.bounds.size
  | .union a b => classSize a + classSize b
  | .intersection a b => min (classSize a) (classSize b)
  | .difference a _ => classSize a
  | .symmetricDifference a b => classSize a + classSize b
  | .complement a => classSize a + 960
  | .folded a => classSize a
  | .foldedAscii a => classSize a

/-- The memory that a pattern takes, roughly and in bytes. A repetition stands for its copies. -/
def size : Pattern → Nat
  | empty => 0
  | char c => classSize c
  | assertion _ => 32
  | sequence p q => p.size + q.size
  | choice p q => p.size + q.size + 64
  | repetition p least most =>
    let copies := if p.isEmptyOnly then min least 1 else max least 1
    match most with
    | none => copies * p.size + 32
    | some most => copies * p.size + (if p.isEmptyOnly then 0 else (most - least) * (p.size + 32))

def sizeLimit : Nat := 10 * Nat.pow 2 20

/-- The pattern that a text writes, under the given settings. -/
def compile? (s : Settings) (text : String) : Option Pattern := do
  let t ← Tree.read? s.extended text.toList
  let (p, _) ← t.build s
  if p.size ≤ sizeLimit then return p else none

end SchemaFilter.Pattern
