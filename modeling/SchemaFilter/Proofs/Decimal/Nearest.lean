import SchemaFilter.Decimal.Double

/-!
# The doubles nearest to whole numbers

Rounding keeps the order of whole numbers, though not strictly: numbers that lie close to each other
may have the same nearest double. Within one binade all magnitudes are rounded to multiples of one
step, and the power of two between two binades is a multiple of the steps on either side, so nothing
is rounded across it.

Up to `2 ^ 53` every whole number is a double. Two different whole numbers are therefore told apart
by their doubles if one of them is smaller than that, or both are not greater.
-/

namespace SchemaFilter.Double

/-! ## Quotients -/

theorem roundDiv_mono {num num' den : Nat} (pos : 0 < den) (le : num ≤ num') :
    roundDiv num den ≤ roundDiv num' den := by
  rcases Nat.eq_or_lt_of_le le with rfl | less
  · exact Nat.le_refl _
  · have upper := roundDiv_mul_le num pos
    have lower := le_roundDiv_mul num' pos
    apply Nat.le_of_not_lt
    intro greater
    have apart := Nat.mul_le_mul_right den (Nat.succ_le_of_lt greater)
    rw [Nat.succ_mul] at apart
    omega

/-! ## Powers of two

The exponents are variables here, so that no power is ever computed. -/

theorem pow_pos (exponent : Nat) : 0 < Nat.pow 2 exponent :=
  Nat.pow_pos (by decide)

theorem shiftLeft_eq_mul (n exponent : Nat) : n <<< exponent = n * Nat.pow 2 exponent :=
  Nat.shiftLeft_eq n exponent

theorem shiftLeft_mono {m n : Nat} (le : m ≤ n) (exponent : Nat) :
    m <<< exponent ≤ n <<< exponent := by
  rw [shiftLeft_eq_mul, shiftLeft_eq_mul]
  exact Nat.mul_le_mul_right _ le

theorem shiftLeft_lt_shiftLeft {m n : Nat} (less : m < n) (exponent : Nat) :
    m <<< exponent < n <<< exponent := by
  rw [shiftLeft_eq_mul, shiftLeft_eq_mul]
  exact Nat.mul_lt_mul_of_pos_right less (pow_pos exponent)

theorem pow_shiftLeft (first second : Nat) :
    Nat.pow 2 first <<< second = Nat.pow 2 (first + second) :=
  (shiftLeft_eq_mul _ _).trans (Nat.pow_add 2 first second).symm

theorem log2_pow (exponent : Nat) : (Nat.pow 2 exponent).log2 = exponent :=
  Nat.log2_two_pow

/-- What is below a power of two lies in a lower binade, zero aside. -/
theorem log2_lt_of_lt_pow {units exponent : Nat} (nonzero : units ≠ 0)
    (less : units < Nat.pow 2 exponent) : units.log2 < exponent :=
  (Nat.log2_lt nonzero).2 less

theorem log2_mono {units units' : Nat} (le : units ≤ units') : units.log2 ≤ units'.log2 := by
  by_cases zero : units = 0
  · subst zero
    simp
  · exact (Nat.le_log2 (by omega)).2 (Nat.le_trans (Nat.log2_self_le zero) le)

/-! ## Magnitudes -/

/-- The magnitude nearest to a number of units. -/
def nearest (units : Nat) : Nat :=
  roundDiv units (step units) * step units

/-- Nothing is rounded up across a multiple of its step. -/
theorem nearest_le {units bound : Nat} (le : units ≤ bound) (multiple : step units ∣ bound) :
    nearest units ≤ bound := by
  obtain ⟨q, rfl⟩ := multiple
  have pos := step_pos units
  have below := roundDiv_mono pos le
  rw [Nat.mul_comm (step units) q, roundDiv_mul q pos] at below
  rw [nearest, Nat.mul_comm (step units) q]
  exact Nat.mul_le_mul_right _ below

/-- Nothing is rounded down across a multiple of its step. -/
theorem le_nearest {units bound : Nat} (le : bound ≤ units) (multiple : step units ∣ bound) :
    bound ≤ nearest units := by
  obtain ⟨q, rfl⟩ := multiple
  have pos := step_pos units
  have above := roundDiv_mono pos le
  rw [Nat.mul_comm (step units) q, roundDiv_mul q pos] at above
  rw [nearest, Nat.mul_comm (step units) q]
  exact Nat.mul_le_mul_right _ above

/-- A multiple of its own step is a magnitude. -/
theorem nearest_of_dvd {units : Nat} (multiple : step units ∣ units) : nearest units = units :=
  Nat.le_antisymm (nearest_le (Nat.le_refl _) multiple) (le_nearest (Nat.le_refl _) multiple)

/-- The step of a binade divides the powers of two that are not smaller. -/
theorem step_dvd_pow {units exponent : Nat} (le : units.log2 + 1 ≤ precision + exponent) :
    step units ∣ Nat.pow 2 exponent :=
  Nat.pow_dvd_pow 2 (by omega)

/-- In particular it divides those from which the binade begins or on which it ends. -/
theorem step_dvd_pow_of_log2_le {units exponent : Nat} (le : units.log2 ≤ exponent) :
    step units ∣ Nat.pow 2 exponent :=
  step_dvd_pow (by simp only [precision]; omega)

/-- Rounding keeps the order. -/
theorem nearest_mono {units units' : Nat} (le : units ≤ units') :
    nearest units ≤ nearest units' := by
  rcases Nat.eq_or_lt_of_le (log2_mono le) with binade | binade
  · have same : step units = step units' := by rw [step, step, binade]
    rw [nearest, nearest, same]
    exact Nat.mul_le_mul_right _ (roundDiv_mono (step_pos units') le)
  · -- the power of two with which the binade of the greater number begins lies between the two
    have nonzero : units' ≠ 0 := by
      rintro rfl
      simp at binade
    have above : Nat.pow 2 units'.log2 ≤ units' := Nat.log2_self_le nonzero
    have below : units ≤ Nat.pow 2 units'.log2 :=
      Nat.le_of_lt (Nat.lt_of_lt_of_le Nat.lt_log2_self (Nat.pow_le_pow_right (by decide) binade))
    exact Nat.le_trans (nearest_le below (step_dvd_pow_of_log2_le (Nat.le_of_lt binade)))
      (le_nearest above (step_dvd_pow_of_log2_le (Nat.le_refl _)))

theorem nearest_pow (exponent : Nat) : nearest (Nat.pow 2 exponent) = Nat.pow 2 exponent :=
  nearest_of_dvd (step_dvd_pow_of_log2_le (Nat.le_of_eq (log2_pow exponent)))

/-! ## Whole numbers -/

def scaled (n : Nat) : Nat :=
  n <<< unitBits

/-- Whether a number is in the range of words of 64 bits, whether these have a sign or not. -/
def IsWord (n : Int) : Prop :=
  n.natAbs ≤ Nat.pow 2 64

instance (n : Int) : Decidable (IsWord n) :=
  inferInstanceAs (Decidable (_ ≤ _))

theorem roundUnits_one (n : Nat) : roundUnits n 1 =
    if (nearest (scaled n)).log2 + 1 < sizeLimit then some (nearest (scaled n)) else none := by
  unfold roundUnits nearest scaled
  dsimp only
  rw [Nat.div_one, Nat.one_mul]

/-- No number of 64 bits is too large for a double. -/
theorem roundUnits_of_le {n : Nat} (word : n ≤ Nat.pow 2 64) :
    roundUnits n 1 = some (nearest (scaled n)) := by
  have within : scaled n ≤ Nat.pow 2 (64 + unitBits) := by
    rw [scaled, ← pow_shiftLeft]
    exact shiftLeft_mono word unitBits
  have width := log2_mono (nearest_mono within)
  rw [nearest_pow, log2_pow] at width
  have small : 64 + unitBits + 1 < sizeLimit := by decide
  rw [roundUnits_one, if_pos (Nat.lt_of_le_of_lt (Nat.succ_le_succ width) small)]

theorem toInt_ofInt {n : Int} (word : IsWord n) : (ofInt n).toInt =
    if n < 0 then -(nearest (scaled n.natAbs) : Int) else nearest (scaled n.natAbs) := by
  rw [ofInt, roundUnits_of_le word]
  generalize nearest (scaled n.natAbs) = units
  simp [toInt]

/-- The doubles of whole numbers have the order of the numbers, or are the same. -/
theorem toInt_ofInt_mono {m n : Int} (hm : IsWord m) (hn : IsWord n) (le : m ≤ n) :
    (ofInt m).toInt ≤ (ofInt n).toInt := by
  rw [toInt_ofInt hm, toInt_ofInt hn]
  have larger (h : m.natAbs ≤ n.natAbs) := nearest_mono (shiftLeft_mono h unitBits)
  have smaller (h : n.natAbs ≤ m.natAbs) := nearest_mono (shiftLeft_mono h unitBits)
  unfold scaled
  generalize nearest (m.natAbs <<< unitBits) = first at *
  generalize nearest (n.natAbs <<< unitBits) = second at *
  grind

/-- Up to `2 ^ 53` a whole number is its own nearest double. -/
theorem nearest_scaled {n : Nat} (small : n ≤ Nat.pow 2 precision) :
    nearest (scaled n) = scaled n := by
  rcases Nat.eq_or_lt_of_le small with rfl | less
  · rw [scaled, pow_shiftLeft, nearest_pow]
  · apply nearest_of_dvd
    by_cases zero : scaled n = 0
    · rw [zero]
      exact Nat.dvd_zero _
    · have below := shiftLeft_lt_shiftLeft less unitBits
      rw [pow_shiftLeft] at below
      have width := log2_lt_of_lt_pow zero below
      have fine : step (scaled n) ∣ Nat.pow 2 unitBits := step_dvd_pow (by omega)
      have whole : scaled n = n * Nat.pow 2 unitBits := shiftLeft_eq_mul n unitBits
      rw [whole] at fine ⊢
      exact Nat.dvd_mul_left_of_dvd fine n

/-- Whether a whole number lies in the range in which there is a double for each. -/
def IsFine (n : Int) : Prop :=
  n.natAbs ≤ Nat.pow 2 precision

theorem IsFine.isWord {n : Int} (h : IsFine n) : IsWord n :=
  Nat.le_trans h (Nat.pow_le_pow_right (by decide) (by decide))

/-- In that range a double is its number in units. -/
theorem toInt_ofInt_of_isFine {n : Int} (fine : IsFine n) :
    (ofInt n).toInt = n * (Nat.pow 2 unitBits : Nat) := by
  rw [toInt_ofInt fine.isWord, nearest_scaled fine, scaled, shiftLeft_eq_mul]
  generalize Nat.pow 2 unitBits = units
  rw [Int.natCast_mul]
  split
  · next negative =>
    rw [← Int.neg_mul, show -(n.natAbs : Int) = n by omega]
  · next positive => rw [show (n.natAbs : Int) = n by omega]

/-- In that range different numbers have different doubles. -/
theorem toInt_ofInt_lt {m n : Int} (hm : IsFine m) (hn : IsFine n) (less : m < n) :
    (ofInt m).toInt < (ofInt n).toInt := by
  rw [toInt_ofInt_of_isFine hm, toInt_ofInt_of_isFine hn]
  have pos := pow_pos unitBits
  generalize Nat.pow 2 unitBits = units at pos
  exact Int.mul_lt_mul_of_pos_right less (Int.natCast_pos.2 pos)

/-! ## Telling whole numbers apart -/

/-- Whether the doubles nearest to two whole numbers tell them apart, if they differ. -/
def TellApart (m n : Int) : Prop :=
  (ofInt m).toInt = (ofInt n).toInt → m = n

instance (m n : Int) : Decidable (TellApart m n) :=
  inferInstanceAs (Decidable (_ → _))

/-- The doubles of numbers that they tell apart have the order of the numbers. -/
theorem TellApart.toInt_ofInt_lt_iff {m n : Int} (apart : TellApart m n) (hm : IsWord m)
    (hn : IsWord n) : (ofInt m).toInt < (ofInt n).toInt ↔ m < n := by
  have up := toInt_ofInt_mono hm hn
  have down := toInt_ofInt_mono hn hm
  rw [TellApart] at apart
  generalize (ofInt m).toInt = x at *
  generalize (ofInt n).toInt = y at *
  omega

/-- Numbers up to `2 ^ 53` are told apart. -/
theorem tellApart_of_isFine {m n : Int} (hm : IsFine m) (hn : IsFine n) : TellApart m n := by
  intro same
  rcases Int.lt_trichotomy m n with less | equal | greater
  · exact absurd same (Int.ne_of_lt (toInt_ofInt_lt hm hn less))
  · exact equal
  · exact absurd same.symm (Int.ne_of_lt (toInt_ofInt_lt hn hm greater))

/-- A number below `2 ^ 53` is told apart from every other number. -/
theorem tellApart_of_lt {m n : Int} (small : m.natAbs < Nat.pow 2 precision) (hn : IsWord n) :
    TellApart m n := by
  by_cases fine : IsFine n
  · exact tellApart_of_isFine (Nat.le_of_lt small) fine
  · -- the double of the power, or of its negative, lies between the two others
    intro same
    have hm : IsFine m := Nat.le_of_lt small
    rw [IsFine] at fine
    have edge (e : Int) (size : e.natAbs = Nat.pow 2 precision) : IsFine e := Nat.le_of_eq size
    generalize Nat.pow 2 precision = limit at small fine edge
    rcases Int.le_total 0 n with positive | negative
    · have top := edge limit (by omega)
      have apart := Int.lt_of_lt_of_le (toInt_ofInt_lt hm top (by omega))
        (toInt_ofInt_mono top.isWord hn (by omega))
      exact absurd same (Int.ne_of_lt apart)
    · have bottom := edge (-limit) (by omega)
      have apart := Int.lt_of_le_of_lt (toInt_ofInt_mono hn bottom.isWord (by omega))
        (toInt_ofInt_lt bottom hm (by omega))
      exact absurd same.symm (Int.ne_of_lt apart)

/-- Numbers are told apart if one of them is below `2 ^ 53`, or both are not above. -/
theorem tellApart_of_small {m n : Int} (hm : IsWord m) (hn : IsWord n)
    (small : m.natAbs < Nat.pow 2 precision ∨ n.natAbs < Nat.pow 2 precision ∨
      IsFine m ∧ IsFine n) : TellApart m n := by
  rcases small with first | second | ⟨first, second⟩
  · exact tellApart_of_lt first hn
  · exact fun same => (tellApart_of_lt second hm same.symm).symm
  · exact tellApart_of_isFine first second

end SchemaFilter.Double
