import SchemaFilter.Json.Token
import SchemaFilter.Text.Blank

/-!
# Points in time

A text may name a point in time in three layouts, tried in this order: a date and time with its
offset from UTC, a date and time without one, which is taken as UTC, and a plain date, which stands
for its midnight. Blanks around the text do not count.

A second 60 is accepted in every minute. It lies after the rest of that minute and before the next
one: a `Timestamp` keeps it as second 59 with a fraction of one second or more.
-/

namespace SchemaFilter

/-- A point in time: whole seconds since the first of January of year zero, and nanoseconds, which
reach into a second second only during a leap second. -/
structure Timestamp where
  seconds : Int
  nanos : Nat
deriving DecidableEq, Repr, Inhabited

namespace Timestamp

def before (a b : Timestamp) : Bool :=
  a.seconds < b.seconds || (a.seconds == b.seconds && a.nanos < b.nanos)

@[simp] theorem before_irrefl (a : Timestamp) : a.before a = false := by
  simp [before]

theorem before_trans {a b c : Timestamp} (hab : a.before b = true) (hbc : b.before c = true) :
    a.before c = true := by
  simp only [before, Bool.or_eq_true, Bool.and_eq_true, decide_eq_true_eq, beq_iff_eq] at *
  omega

theorem before_or_eq_or_before (a b : Timestamp) :
    a.before b = true ∨ a = b ∨ b.before a = true := by
  cases a; cases b
  simp only [before, Bool.or_eq_true, Bool.and_eq_true, decide_eq_true_eq, beq_iff_eq,
    Timestamp.mk.injEq]
  omega

end Timestamp

namespace Calendar

/-- Whether a year has a 29th of February. -/
def isLeap (year : Int) : Bool :=
  (year % 4 == 0 && year % 100 != 0) || year % 400 == 0

def daysInMonth (year : Int) (month : Nat) : Nat :=
  match month with
  | 2 => if isLeap year then 29 else 28
  | 4 | 6 | 9 | 11 => 30
  | _ => 31

/-- The number of days before a year, counted from year zero. -/
def daysBeforeYear (year : Int) : Int :=
  let last := year - 1
  365 * year + last / 4 - last / 100 + last / 400 + 1

def daysBeforeMonth (year : Int) (month : Nat) : Nat :=
  ((List.range month).drop 1).foldl (fun n m => n + daysInMonth year m) 0

def minYear : Int := -262143

def maxYear : Int := 262142

/-- The number of a day, if the date exists. -/
def dayNumber? (year : Int) (month day : Nat) : Option Int :=
  if minYear ≤ year ∧ year ≤ maxYear ∧ 1 ≤ month ∧ month ≤ 12 ∧ 1 ≤ day ∧
      day ≤ daysInMonth year month then
    some (daysBeforeYear year + daysBeforeMonth year month + day - 1)
  else none

/-- A point in time given in the clock of UTC, if date and time exist. -/
def timestamp? (day : Int) (hour minute second nanos : Nat) : Option Timestamp :=
  if hour < 24 ∧ minute < 60 ∧ second < 61 then
    let minutes := day * 1440 + hour * 60 + minute
    if second = 60 then some ⟨minutes * 60 + 59, 1000000000 + nanos⟩
    else some ⟨minutes * 60 + second, nanos⟩
  else none

/-! ## Reading parts of a text -/

/-- A reader takes something from the front of a text. -/
abbrev Reader (α : Type) := List Char → Option (α × List Char)

/-- One character that has to stand there. -/
def literal (c : Char) : Reader Unit
  | d :: rest => if c = d then some ((), rest) else none
  | [] => none

/-- A number of at least `least` and at most `most` digits, as many as there are. -/
def number (least most : Nat) : Reader Nat := fun cs =>
  let ds := (cs.take most).takeWhile Char.isDigit
  if ds.length < least then none else some (Json.natOfDigits ds, cs.drop ds.length)

/-- A number of any length. -/
def longNumber : Reader Nat := fun cs => number 1 cs.length cs

def spacedNumber (most : Nat) : Reader Nat := fun cs =>
  number 1 most (Text.trimStart cs)

/-- A year after blanks: up to four digits, or a sign and any number of digits. -/
def spacedYear : Reader Int := fun cs =>
  match Text.trimStart cs with
  | '-' :: rest => (longNumber rest).map fun (n, rest) => (-(n : Int), rest)
  | '+' :: rest => (longNumber rest).map fun (n, rest) => ((n : Int), rest)
  | rest => (number 1 4 rest).map fun (n, rest) => ((n : Int), rest)

/-- A fraction of a second in nanoseconds, if a point follows. Digits after the ninth do not count.
-/
def fraction : Reader Nat := fun cs =>
  match cs with
  | '.' :: rest =>
    let ds := rest.takeWhile Char.isDigit
    if ds.isEmpty then none
    else
      let kept := ds.take 9
      some (Json.natOfDigits kept * Nat.pow 10 (9 - kept.length), rest.drop ds.length)
  | _ => some (0, cs)

def pair : Reader Nat := number 2 2

/-- A time of day in two-digit parts, with a fraction. -/
def strictTime : Reader (Nat × Nat × Nat × Nat) := fun cs => do
  let (hour, cs) ← pair cs
  let (_, cs) ← literal ':' cs
  let (minute, cs) ← pair cs
  let (_, cs) ← literal ':' cs
  let (second, cs) ← pair cs
  let (nanos, cs) ← fraction cs
  return ((hour, minute, second, nanos), cs)

/-- An offset from UTC in minutes. -/
def offset : Reader Int := fun cs => do
  let signed (sign : Int) (cs : List Char) : Option (Int × List Char) := do
    let (hours, cs) ← pair cs
    let (_, cs) ← literal ':' cs
    let (minutes, cs) ← pair cs
    if hours < 24 ∧ minutes < 60 then some (sign * (hours * 60 + minutes : Nat), cs) else none
  match cs with
  | 'Z' :: rest => some (0, rest)
  | 'z' :: rest => some (0, rest)
  | '+' :: rest => signed 1 rest
  | '-' :: rest => signed (-1) rest
  | '−' :: rest => signed (-1) rest
  | _ => none

/-- A date and time with an offset, all parts in full length. -/
def zoned? (cs : List Char) : Option Timestamp := do
  let (year, cs) ← number 4 4 cs
  let (_, cs) ← literal '-' cs
  let (month, cs) ← pair cs
  let (_, cs) ← literal '-' cs
  let (day, cs) ← pair cs
  let cs ←
    match cs with
    | 'T' :: rest => some rest
    | 't' :: rest => some rest
    | ' ' :: rest => some rest
    | _ => none
  let ((hour, minute, second, nanos), cs) ← strictTime cs
  let (minutes, cs) ← offset cs
  if !cs.isEmpty then none
  let local_ ← timestamp? (← dayNumber? year month day) hour minute second nanos
  return ⟨local_.seconds - minutes * 60, local_.nanos⟩

/-- A date whose parts may be short and may follow blanks. -/
def date : Reader Int := fun cs => do
  let (year, cs) ← spacedYear cs
  let (_, cs) ← literal '-' cs
  let (month, cs) ← spacedNumber 2 cs
  let (_, cs) ← literal '-' cs
  let (day, cs) ← spacedNumber 2 cs
  return (← dayNumber? year month day, cs)

/-- A date and time without an offset; `separator` reads what stands between them. -/
def unzoned? (separator : Reader Unit) (cs : List Char) : Option Timestamp := do
  let (day, cs) ← date cs
  let (_, cs) ← separator cs
  let (hour, cs) ← spacedNumber 2 cs
  let (_, cs) ← literal ':' cs
  let (minute, cs) ← spacedNumber 2 cs
  let (_, cs) ← literal ':' cs
  let (second, cs) ← spacedNumber 2 cs
  let (nanos, cs) ← fraction cs
  if !cs.isEmpty then none
  timestamp? day hour minute second nanos

/-- The midnight of a plain date. -/
def midnight? (cs : List Char) : Option Timestamp := do
  let (day, cs) ← date cs
  if !cs.isEmpty then none
  timestamp? day 0 0 0 0

/-- The point in time that a text names. -/
def parse? (s : String) : Option Timestamp :=
  let cs := Text.trim s.toList
  zoned? cs <|> unzoned? (literal 'T') cs <|>
    unzoned? (fun cs => some ((), Text.trimStart cs)) cs <|> midnight? cs

end Calendar

end SchemaFilter
