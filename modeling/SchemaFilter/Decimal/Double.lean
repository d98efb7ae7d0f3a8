/-!
# Finite doubles

Every finite double is a whole multiple of `2 ^ -1074`, the smallest positive one. A `Double` keeps
its sign and that multiple, so that comparing two doubles is comparing two integers and no rounding
is hidden in the order.

Rounding is explicit: `Double.roundUnits` takes an exact quotient to the nearest representable
magnitude, a tie going to the even neighbour, and answers `none` where the quotient is too large.
-/

namespace SchemaFilter

/-- A finite double: its sign, and its magnitude in units of `2 ^ -1074`. -/
structure Double where
  negative : Bool
  units : Nat
deriving DecidableEq, Repr, Inhabited

namespace Double

/-- The number of units in one is `2 ^ unitBits`. -/
def unitBits : Nat := 1074

def precision : Nat := 53

/-- Magnitudes in units have fewer than this many bits. -/
def sizeLimit : Nat := 2099

/-- The exact value in units, with its sign. Both zeros have the value `0`. -/
def toInt (d : Double) : Int :=
  if d.negative then -(d.units : Int) else d.units

/-- The whole number nearest to `num / den`; a half goes to the even neighbour. -/
def roundDiv (num den : Nat) : Nat :=
  let q := num / den
  let twice := 2 * (num % den)
  if twice < den then q
  else if den < twice then q + 1
  else if q % 2 = 0 then q
  else q + 1

@[simp] theorem roundDiv_mul (q : Nat) {den : Nat} (h : 0 < den) : roundDiv (q * den) den = q := by
  simp [roundDiv, Nat.mul_div_cancel _ h, h]

/-- Rounding adds at most one half. -/
theorem roundDiv_mul_le (num : Nat) {den : Nat} (h : 0 < den) :
    2 * (roundDiv num den * den) ≤ 2 * num + den := by
  have split_num := Nat.div_add_mod num den
  have small := Nat.mod_lt num h
  simp only [roundDiv]
  split
  · grind
  · split
    · grind
    · split <;> grind

/-- Rounding takes away at most one half. -/
theorem le_roundDiv_mul (num : Nat) {den : Nat} (h : 0 < den) :
    2 * num ≤ 2 * (roundDiv num den * den) + den := by
  have split_num := Nat.div_add_mod num den
  have small := Nat.mod_lt num h
  simp only [roundDiv]
  split
  · grind
  · split
    · grind
    · split <;> grind

/-- The distance between neighbouring magnitudes at a magnitude of `units`. -/
def step (units : Nat) : Nat :=
  Nat.pow 2 (units.log2 + 1 - precision)

theorem step_pos (units : Nat) : 0 < step units :=
  Nat.pow_pos (by decide)

/-- The magnitude nearest to `num / den`, or `none` if it is too large for a double. -/
def roundUnits (num den : Nat) : Option Nat :=
  let scaled := num <<< unitBits
  let gap := step (scaled / den)
  let units := roundDiv scaled (den * gap) * gap
  if units.log2 + 1 < sizeLimit then some units else none

def zero (negative : Bool) : Double :=
  ⟨negative, 0⟩

/-- The double nearest to an integer of moderate size. -/
def ofInt (n : Int) : Double :=
  ⟨decide (n < 0), (roundUnits n.natAbs 1).getD 0⟩

/-- The double nearest to `digits * 10 ^ exponent`, or `none` if it is too large. The exponent is
compared with the range of doubles first, so that no power beyond that range is ever computed. -/
def ofDecimal (negative : Bool) (digits : Nat) (exponent : Int) : Option Double :=
  if digits = 0 then some (zero negative)
  else if 400 < exponent then none
  else if exponent + digits.log2 < -400 then some (zero negative)
  else
    let magnitude :=
      if 0 ≤ exponent then roundUnits (digits * Nat.pow 10 exponent.toNat) 1
      else roundUnits digits (Nat.pow 10 (-exponent).toNat)
    magnitude.map (⟨negative, ·⟩)

/-- Equality of values: the two zeros are equal. -/
def same (a b : Double) : Bool :=
  a.toInt == b.toInt

@[simp] theorem same_iff (a b : Double) : a.same b = true ↔ a.toInt = b.toInt := by
  simp [same]

end Double

end SchemaFilter
