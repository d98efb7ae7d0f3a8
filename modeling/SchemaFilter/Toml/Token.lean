import SchemaFilter.Calendar
import SchemaFilter.Toml.Basic

/-!
# The tokens of TOML

Strings, numbers and dates are read from the front of a character list. Controls are refused
everywhere but for the tab, and a carriage return is only good in front of a line feed.
-/

namespace SchemaFilter.Toml

/-- A reader takes something from the front of a text. -/
abbrev Reader (α : Type) := List Char → Option (α × List Char)

/-- Blanks inside a line. -/
def isBlank (c : Char) : Bool :=
  c == ' ' || c == '\t'

def skipBlanks (cs : List Char) : List Char :=
  cs.dropWhile isBlank

def lineBreak? : List Char → Option (List Char)
  | '\n' :: rest => some rest
  | '\r' :: '\n' :: rest => some rest
  | _ => none

/-- Whether a character may stand in a text as it is. -/
def isVisible (c : Char) : Bool :=
  c == '\t' || (32 ≤ c.toNat && c.toNat != 127)

def skipComment (cs : List Char) : List Char :=
  match cs with
  | '#' :: rest => rest.dropWhile isVisible
  | _ => cs

/-- The text after the rest of a line that holds nothing but blanks and a comment. -/
def lineEnd? (cs : List Char) : Option (List Char) :=
  match skipComment (skipBlanks cs) with
  | [] => some []
  | rest => lineBreak? rest

/-- The text after any number of blanks, comments and line breaks. A comment is followed by a line
break. -/
def skipLines : (fuel : Nat) → List Char → Option (List Char)
  | 0, cs => some cs
  | fuel + 1, cs =>
    match skipBlanks cs with
    | '#' :: rest => do skipLines fuel (← lineBreak? (skipComment ('#' :: rest)))
    | '\n' :: rest => skipLines fuel rest
    | '\r' :: rest => do skipLines fuel (← lineBreak? ('\r' :: rest))
    | rest => some rest

/-! ## Strings -/

def scalar (count : Nat) : Reader Char := fun cs => do
  let digits := cs.take count
  if digits.length < count then none
  let values ← digits.mapM Json.hexValue?
  let n := values.foldl (fun n d => 16 * n + d) 0
  if n.isValidChar then return (Char.ofNat n, cs.drop count) else none

/-- The character behind a backslash. -/
def escape : Reader Char
  | 'b' :: rest => some ('\x08', rest)
  | 't' :: rest => some ('\t', rest)
  | 'n' :: rest => some ('\n', rest)
  | 'f' :: rest => some ('\x0c', rest)
  | 'r' :: rest => some ('\r', rest)
  | '"' :: rest => some ('"', rest)
  | '\\' :: rest => some ('\\', rest)
  | 'u' :: rest => scalar 4 rest
  | 'U' :: rest => scalar 8 rest
  | _ => none

/-- A string on one line after its opening quote. -/
def basicBody : (fuel : Nat) → Reader (List Char)
  | 0, _ => none
  | fuel + 1, cs =>
    match cs with
    | [] => none
    | '"' :: rest => some ([], rest)
    | '\\' :: rest => do
      let (c, rest) ← escape rest
      let (body, rest) ← basicBody fuel rest
      return (c :: body, rest)
    | c :: rest => do
      if !isVisible c then none
      let (body, rest) ← basicBody fuel rest
      return (c :: body, rest)

/-- A literal string on one line after its opening quote. -/
def literalBody : Reader (List Char) := fun cs =>
  let body := cs.takeWhile fun c => c != '\'' && isVisible c
  match cs.drop body.length with
  | '\'' :: rest => some (body, rest)
  | _ => none

/-- The quotes that end a long string: three of them, and up to two more that belong to it. -/
def closingQuotes? (quote : Char) (cs : List Char) : Option (List Char × List Char) :=
  let run := (cs.take 5).takeWhile (· == quote)
  if run.length < 3 then none else some (run.drop 3, cs.drop run.length)

def skipBlankLines : (fuel : Nat) → List Char → List Char
  | 0, cs => cs
  | fuel + 1, cs =>
    let rest := skipBlanks cs
    match lineBreak? rest with
    | some rest => skipBlankLines fuel rest
    | none => rest

/-- The text behind a backslash at the end of a line, up to the next visible character. -/
def skipContinuation (cs : List Char) : Option (List Char) := do
  let rest ← lineBreak? (skipBlanks cs)
  return skipBlankLines rest.length rest

/-- The content of a long string; escapes are read if `escapes` is set. -/
def longBody (quote : Char) (escapes : Bool) : (fuel : Nat) → Reader (List Char)
  | 0, _ => none
  | fuel + 1, cs =>
    match closingQuotes? quote cs with
    | some (inside, rest) => some (inside, rest)
    | none =>
      match cs with
      | [] => none
      | c :: rest =>
        if escapes && c == '\\' then
          match skipContinuation rest with
          | some rest => longBody quote escapes fuel rest
          | none => do
            let (c, rest) ← escape rest
            let (body, rest) ← longBody quote escapes fuel rest
            return (c :: body, rest)
        else
          match lineBreak? cs with
          | some rest => do
            let (body, rest) ← longBody quote escapes fuel rest
            return ('\n' :: body, rest)
          | none => do
            if !isVisible c then none
            let (body, rest) ← longBody quote escapes fuel rest
            return (c :: body, rest)

/-- A long string after its opening quotes. A line break right behind them does not count. -/
def long (quote : Char) (escapes : Bool) : Reader (List Char) := fun cs =>
  let cs := (lineBreak? cs).getD cs
  longBody quote escapes (cs.length + 1) cs

def shortString : Reader String
  | '"' :: rest => (basicBody (rest.length + 1) rest).map fun (s, rest) => (String.ofList s, rest)
  | '\'' :: rest => (literalBody rest).map fun (s, rest) => (String.ofList s, rest)
  | _ => none

def anyString : Reader String := fun cs =>
  match cs with
  | '"' :: '"' :: '"' :: rest => (long '"' true rest).map fun (s, rest) => (String.ofList s, rest)
  | '\'' :: '\'' :: '\'' :: rest =>
    (long '\'' false rest).map fun (s, rest) => (String.ofList s, rest)
  | _ => shortString cs

/-! ## Numbers -/

/-- Digits that pass a test, with single underscores between them. -/
def digitGroup (test : Char → Bool) : (fuel : Nat) → Reader (List Char)
  | 0, _ => none
  | fuel + 1, cs =>
    match cs with
    | c :: '_' :: rest => do
      if !test c then none
      match rest with
      | d :: _ =>
        if test d then
          let (ds, rest) ← digitGroup test fuel rest
          return (c :: ds, rest)
        else return ([c], '_' :: rest)
      | [] => return ([c], ['_'])
    | c :: rest =>
      if !test c then none
      else
        match digitGroup test fuel rest with
        | some (ds, rest) => some (c :: ds, rest)
        | none => some ([c], rest)
    | [] => none

def digitsOf (test : Char → Bool) : Reader (List Char) := fun cs =>
  digitGroup test (cs.length + 1) cs

def sign : List Char → Bool × List Char
  | '+' :: rest => (false, rest)
  | '-' :: rest => (true, rest)
  | rest => (false, rest)

/-- A decimal integer without its sign: a zero, or digits that do not start with one. -/
def decimal : Reader (List Char) := fun cs =>
  match cs with
  | '0' :: rest => some (['0'], rest)
  | _ => digitsOf Char.isDigit cs

def fits64 (n : Int) : Bool :=
  -(Nat.pow 2 63 : Int) ≤ n && n < Nat.pow 2 63

def inBase (base : Nat) (digits : List Char) : Nat :=
  digits.foldl (fun n c => base * n + (Json.hexValue? c).getD 0) 0

/-- An integer in the base that its second character names. -/
def based (base : Nat) : Reader Toml := fun cs => do
  let (digits, rest) ← digitsOf (fun c => (Json.hexValue? c).any (· < base)) cs
  let n : Int := inBase base digits
  if fits64 n then return (integer n, rest) else none

/-- The part of a number from its point on, and the power of ten that it adds. -/
def fractionPart (cs : List Char) : Option (List Char × List Char) :=
  match cs with
  | '.' :: rest => digitsOf Char.isDigit rest
  | _ => none

def exponentPart (cs : List Char) : Option (Int × List Char) :=
  match cs with
  | c :: rest =>
    if c = 'e' ∨ c = 'E' then do
      let (negative, rest) := sign rest
      let (digits, rest) ← digitsOf Char.isDigit rest
      let n : Int := Json.natOfDigits digits
      return (if negative then -n else n, rest)
    else none
  | [] => none

/-- A number with a fraction, an exponent or both. It may not be too large for a double. -/
def float? (negative : Bool) (whole cs : List Char) : Option (Toml × List Char) := do
  let (fraction, rest) := (fractionPart cs).getD ([], cs)
  let (exponent, rest') := (exponentPart rest).getD (0, rest)
  if rest'.length = cs.length then none
  let d := Double.ofDecimal negative (Json.natOfDigits (whole ++ fraction))
    (exponent - fraction.length)
  if d.isSome || negative then return (.float, rest') else none

/-- An infinity, or what is no number. -/
def special? (cs : List Char) : Option (Toml × List Char) :=
  match cs with
  | 'i' :: 'n' :: 'f' :: rest => some (.float, rest)
  | 'n' :: 'a' :: 'n' :: rest => some (.float, rest)
  | _ => none

def number : Reader Toml := fun cs =>
  match cs with
  | '0' :: 'x' :: rest => based 16 rest
  | '0' :: 'o' :: rest => based 8 rest
  | '0' :: 'b' :: rest => based 2 rest
  | _ =>
    let (negative, unsigned) := sign cs
    special? unsigned <|> do
      let (whole, rest) ← decimal unsigned
      float? negative whole rest <|> do
        let n : Int := Json.natOfDigits whole
        let n := if negative then -n else n
        if fits64 n then return (integer n, rest) else none

/-! ## Dates -/

def time : Reader Unit := fun cs => do
  let ((hour, minute, second, _), cs) ← Calendar.strictTime cs
  if hour < 24 ∧ minute < 60 ∧ second ≤ 60 then return ((), cs) else none

def day : Reader Unit := fun cs => do
  let (year, cs) ← Calendar.number 4 4 cs
  let (_, cs) ← Calendar.literal '-' cs
  let (month, cs) ← Calendar.pair cs
  let (_, cs) ← Calendar.literal '-' cs
  let (day, cs) ← Calendar.pair cs
  if (Calendar.dayNumber? year month day).isSome then return ((), cs) else none

/-- What stands between a day and a time. -/
def timeSeparator? : List Char → Option (List Char)
  | 'T' :: rest => some rest
  | 't' :: rest => some rest
  | ' ' :: rest => some rest
  | _ => none

/-- A time with an offset that may be missing, after a day. A minus sign is a hyphen here. -/
def timeAfterDay (cs : List Char) : Option (List Char) := do
  let (_, rest) ← time (← timeSeparator? cs)
  if rest.head? = some '−' then return rest
  match Calendar.offset rest with
  | some (_, rest) => return rest
  | none => return rest

/-- A date, a time or both. -/
def dateTimeToken : Reader Toml := fun cs =>
  match day cs with
  | some (_, rest) => some (.dateTime, (timeAfterDay rest).getD rest)
  | none => (time cs).map fun (_, rest) => (.dateTime, rest)

end SchemaFilter.Toml
