import SchemaFilter.Value.Basic

/-!
# The tokens of JSON text

Strings, numbers and the three words are read from the front of a character list; each reader gives
the token and the characters after it, or `none` if the text is malformed there. Strings are read
strictly: a control character, an unknown escape or half of a surrogate pair is malformed.

Numbers without fraction and exponent that fit 64 bits stay exact. All others are the nearest
double, and `-0` is the negative zero; a number too large for a double is malformed.
-/

namespace SchemaFilter.Json

/-- The blanks that may stand between tokens. -/
def isSpace (c : Char) : Bool :=
  c == ' ' || c == '\n' || c == '\t' || c == '\r'

def skipSpace (cs : List Char) : List Char :=
  cs.dropWhile isSpace

/-- The value of a hexadecimal digit in either case. -/
def hexValue? (c : Char) : Option Nat :=
  if '0' ≤ c ∧ c ≤ '9' then some (c.toNat - '0'.toNat)
  else if 'a' ≤ c ∧ c ≤ 'f' then some (c.toNat - 'a'.toNat + 10)
  else if 'A' ≤ c ∧ c ≤ 'F' then some (c.toNat - 'A'.toNat + 10)
  else none

/-- The number that four hexadecimal digits write. -/
def hexQuad (a b c d : Char) : Option Nat := do
  return ((← hexValue? a) * 16 + (← hexValue? b)) * 256 + ((← hexValue? c) * 16 + (← hexValue? d))

/-- Whether a code unit opens a surrogate pair. -/
def isHighSurrogate (n : Nat) : Bool :=
  0xD800 ≤ n && n < 0xDC00

/-- Whether a code unit closes a surrogate pair. -/
def isLowSurrogate (n : Nat) : Bool :=
  0xDC00 ≤ n && n < 0xE000

def joinSurrogates (high low : Nat) : Char :=
  Char.ofNat (0x10000 + (high - 0xD800) * 0x400 + (low - 0xDC00))

def simpleEscape? : Char → Option Char
  | '"' => some '"'
  | '\\' => some '\\'
  | '/' => some '/'
  | 'b' => some '\x08'
  | 'f' => some '\x0c'
  | 'n' => some '\n'
  | 'r' => some '\r'
  | 't' => some '\t'
  | _ => none

/-- The characters of a string up to its closing quote. -/
def stringBody : List Char → Option (List Char × List Char)
  | [] => none
  | '"' :: rest => some ([], rest)
  | '\\' :: 'u' :: a :: b :: c :: d :: '\\' :: 'u' :: e :: f :: g :: h :: rest => do
    let unit ← hexQuad a b c d
    if isHighSurrogate unit then
      let low ← hexQuad e f g h
      if isLowSurrogate low then
        let (body, rest) ← stringBody rest
        return (joinSurrogates unit low :: body, rest)
      else none
    else if isLowSurrogate unit then none
    else
      let (body, rest) ← stringBody ('\\' :: 'u' :: e :: f :: g :: h :: rest)
      return (Char.ofNat unit :: body, rest)
  | '\\' :: 'u' :: a :: b :: c :: d :: rest => do
    let unit ← hexQuad a b c d
    if isHighSurrogate unit || isLowSurrogate unit then none
    else
      let (body, rest) ← stringBody rest
      return (Char.ofNat unit :: body, rest)
  | '\\' :: c :: rest => do
    let c ← simpleEscape? c
    let (body, rest) ← stringBody rest
    return (c :: body, rest)
  | c :: rest => do
    if c.toNat < 32 ∨ c = '\\' then none
    let (body, rest) ← stringBody rest
    return (c :: body, rest)
termination_by cs => cs.length

/-- A word that must stand at the front. -/
def word (w : List Char) (cs : List Char) : Option (List Char) :=
  if w.isPrefixOf cs then some (cs.drop w.length) else none

def digits (cs : List Char) : List Char × List Char :=
  (cs.takeWhile Char.isDigit, cs.dropWhile Char.isDigit)

def natOfDigits (ds : List Char) : Nat :=
  ds.foldl (fun n c => 10 * n + (c.toNat - '0'.toNat)) 0

/-- The parts of a number as written. -/
structure Numeral where
  negative : Bool
  whole : List Char
  /-- Digits after the point, if there is one. -/
  fraction : Option (List Char)
  /-- Sign and digits of the exponent, if there is one. -/
  exponent : Option (Bool × List Char)
deriving Repr, Inhabited

namespace Numeral

/-- The whole part: a single zero, or digits that do not start with one. -/
def readWhole (cs : List Char) : Option (List Char × List Char) :=
  match cs with
  | '0' :: rest =>
    match rest with
    | c :: _ => if c.isDigit then none else some (['0'], rest)
    | [] => some (['0'], [])
  | _ =>
    let (ds, rest) := digits cs
    if ds.isEmpty then none else some (ds, rest)

/-- The fraction, if a point follows; then it has at least one digit. -/
def readFraction (cs : List Char) : Option (Option (List Char) × List Char) :=
  match cs with
  | '.' :: rest =>
    let (ds, rest) := digits rest
    if ds.isEmpty then none else some (some ds, rest)
  | _ => some (none, cs)

/-- The exponent, if one follows; then it has at least one digit. -/
def readExponent (cs : List Char) : Option (Option (Bool × List Char) × List Char) :=
  let signed (rest : List Char) : Option (Option (Bool × List Char) × List Char) :=
    let (negative, rest) :=
      match rest with
      | '+' :: rest => (false, rest)
      | '-' :: rest => (true, rest)
      | _ => (false, rest)
    let (ds, rest) := digits rest
    if ds.isEmpty then none else some (some (negative, ds), rest)
  match cs with
  | 'e' :: rest => signed rest
  | 'E' :: rest => signed rest
  | _ => some (none, cs)

def read (cs : List Char) : Option (Numeral × List Char) := do
  let (negative, cs) :=
    match cs with
    | '-' :: rest => (true, rest)
    | _ => (false, cs)
  let (whole, cs) ← readWhole cs
  let (fraction, cs) ← readFraction cs
  let (exponent, cs) ← readExponent cs
  return (⟨negative, whole, fraction, exponent⟩, cs)

/-- The exact integer, if the numeral is one and fits 64 bits. -/
def integer? (n : Numeral) : Option Int :=
  if n.fraction.isSome || n.exponent.isSome then none
  else
    let magnitude := natOfDigits n.whole
    if n.negative then
      if magnitude = 0 ∨ Nat.pow 2 63 < magnitude then none else some (-(magnitude : Int))
    else if magnitude < Nat.pow 2 64 then some magnitude
    else none

/-- The nearest double, unless the number is too large. -/
def double? (n : Numeral) : Option Double :=
  let fraction := n.fraction.getD []
  let exponent : Int :=
    match n.exponent with
    | some (true, ds) => -(natOfDigits ds : Int)
    | some (false, ds) => natOfDigits ds
    | none => 0
  Double.ofDecimal n.negative (natOfDigits (n.whole ++ fraction)) (exponent - fraction.length)

def number? (n : Numeral) : Option Number :=
  match n.integer? with
  | some i => some (.integer i)
  | none => n.double?.map .double

end Numeral

def number (cs : List Char) : Option (Number × List Char) := do
  let (numeral, rest) ← Numeral.read cs
  return (← numeral.number?, rest)

end SchemaFilter.Json
