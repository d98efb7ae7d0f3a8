import SchemaFilter.Decimal.Double

/-!
# The shortest decimal of a double

`Double.shortest` finds the fewest digits that read back as the given double, and among decimals of
that length the nearest one. The test is exact: a decimal reads back if it lies between the two
midpoints to the neighbouring doubles, the midpoints included when the double is even.

`Double.text` lays the digits out. Decimal exponents from `-5` to `15` are written positionally with
at least one fractional digit; all others carry an exponent with an explicit sign.
-/

namespace SchemaFilter.Double

/-- The decimals that read back as a magnitude, in quarters of a unit. -/
structure Interval where
  value : Nat
  low : Nat
  high : Nat
  closed : Bool
deriving Repr

/-- The decimals that read back as `units`. Below a power of two the neighbour is half as far. -/
def interval (units : Nat) : Interval :=
  let gap := step units
  let gapBelow := if units = Nat.pow 2 units.log2 ∧ 1 < gap then gap / 2 else gap
  { value := 4 * units
    low := 4 * units - 2 * gapBelow
    high := 4 * units + 2 * gap
    closed := units / gap % 2 == 0 }

/-- The decimal `digits * 10 ^ exponent` and a quantity in quarters of a unit, over one
denominator. -/
def overCommon (digits : Nat) (exponent : Int) (quarters : Nat) : Nat × Nat :=
  if 0 ≤ exponent then (digits * Nat.pow 10 exponent.toNat <<< (unitBits + 2), quarters)
  else (digits <<< (unitBits + 2), quarters * Nat.pow 10 (-exponent).toNat)

namespace Interval

def contains (i : Interval) (digits : Nat) (exponent : Int) : Bool :=
  let (d, low) := overCommon digits exponent i.low
  let (_, high) := overCommon digits exponent i.high
  if i.closed then low ≤ d && d ≤ high else low < d && d < high

/-- The largest decimal with the given exponent that does not exceed the value. -/
def floor (i : Interval) (exponent : Int) : Nat :=
  let (one, value) := overCommon 1 exponent i.value
  value / one

/-- The position of the first digit of the value. -/
def leading (i : Interval) : Int :=
  let scaled := (i.value * Nat.pow 10 400) >>> (unitBits + 2)
  (toString scaled).length - 401

/-- The decimal with the given exponent nearest to the value, if it reads back. -/
def nearest? (i : Interval) (exponent : Int) : Option Nat :=
  let below := i.floor exponent
  let (middle, value) := overCommon (2 * below + 1) exponent (2 * i.value)
  match i.contains below exponent, i.contains (below + 1) exponent with
  | true, true =>
    some (if value < middle ∨ (value = middle ∧ below % 2 = 0) then below else below + 1)
  | true, false => some below
  | false, true => some (below + 1)
  | false, false => none

/-- Tries ever more digits, `fuel` lengths in all. -/
def search (i : Interval) : (fuel : Nat) → (exponent : Int) → Nat × Int
  | 0, exponent => (i.floor exponent, exponent)
  | fuel + 1, exponent =>
    match i.nearest? exponent with
    | some digits => (digits, exponent)
    | none => search i fuel (exponent - 1)

end Interval

/-- The shortest decimal that reads back as a magnitude. Seventeen digits always suffice. -/
def shortest (units : Nat) : Nat × Int :=
  let i := interval units
  i.search 17 i.leading

def stripZeros (digits : List Char) : List Char :=
  (digits.reverse.dropWhile (· == '0')).reverse

/-- Digits with the position of the first one, written as text. -/
def layout (digits : List Char) (leading : Int) : List Char :=
  if -5 ≤ leading ∧ leading < 0 then
    '0' :: '.' :: List.replicate (-leading - 1).toNat '0' ++ digits
  else if 0 ≤ leading ∧ leading ≤ 15 then
    let whole := leading.toNat + 1
    let fraction := digits.drop whole
    digits.take whole ++ List.replicate (whole - digits.length) '0' ++ '.' ::
      (if fraction.isEmpty then ['0'] else fraction)
  else
    let sign := if leading < 0 then '-' else '+'
    let fraction := digits.drop 1
    digits.take 1 ++ (if fraction.isEmpty then [] else '.' :: fraction) ++
      'e' :: sign :: (toString leading.natAbs).toList

def magnitudeText (units : Nat) : List Char :=
  if units = 0 then ['0', '.', '0']
  else
    let (digits, exponent) := shortest units
    let all := (toString digits).toList
    layout (stripZeros all) (exponent + (all.length - 1))

def text (d : Double) : String :=
  String.ofList (if d.negative then '-' :: magnitudeText d.units else magnitudeText d.units)

end SchemaFilter.Double
