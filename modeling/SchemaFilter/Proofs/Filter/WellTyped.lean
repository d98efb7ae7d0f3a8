import SchemaFilter.Proofs.Filter.Accepted

/-!
# Well-typed conditions

What it takes for a condition to go with a schema is said here without the checks of validation:
which values belong to the type of a field, which texts are UUIDs, and which operators and operands
a field may be tested with. Validation allows a condition exactly if it is well typed in this sense.
-/

namespace SchemaFilter

/-! ## UUIDs -/

namespace Uuid

/-- The hexadecimal digits in either case. -/
def hexDigits : List Char :=
  ['0', '1', '2', '3', '4', '5', '6', '7', '8', '9', 'a', 'b', 'c', 'd', 'e', 'f',
    'A', 'B', 'C', 'D', 'E', 'F']

/-- Whether a text is the hyphenated form of a UUID of a version from 1 to 5 and of the variant that
is written 8, 9, a or b: five groups of hexadecimal digits with hyphens between them, of which the
third starts with the version and the fourth with the variant. -/
structure Hyphenated (s : String) (low mid high clock node : List Char) : Prop where
  text : s.toList = low ++ '-' :: mid ++ '-' :: high ++ '-' :: clock ++ '-' :: node
  lengths : [low, mid, high, clock, node].map List.length = [8, 4, 4, 4, 12]
  digits : ∀ group ∈ [low, mid, high, clock, node], ∀ c ∈ group, c ∈ hexDigits
  version : ∃ c ∈ ['1', '2', '3', '4', '5'], high.head? = some c
  variant : ∃ c ∈ ['8', '9', 'a', 'b', 'A', 'B'], clock.head? = some c

theorem isHex_iff {c : Char} : isHex c = true ↔ c ∈ hexDigits := by
  simp only [isHex, Char.isDigit, Bool.and_eq_true, Bool.or_eq_true, decide_eq_true_eq,
    Char.le_def, UInt32.le_iff_toNat_le, ge_iff_le, hexDigits]
  simp [Char.ext_iff, ← UInt32.toNat_inj]
  omega

theorem isVersion_iff {c : Char} : isVersion c = true ↔ c ∈ ['1', '2', '3', '4', '5'] := by
  simp only [isVersion, Bool.and_eq_true, decide_eq_true_eq, Char.le_def, UInt32.le_iff_toNat_le]
  simp [Char.ext_iff, ← UInt32.toNat_inj]
  omega

theorem isVariant_iff {c : Char} : isVariant c = true ↔ c ∈ ['8', '9', 'a', 'b', 'A', 'B'] := by
  simp [isVariant, or_assoc]

theorem fits_append_iff {ps qs : List (Char → Bool)} {cs : List Char} :
    fits (ps ++ qs) cs = true ↔
      ∃ front back, cs = front ++ back ∧ fits ps front = true ∧ fits qs back = true := by
  induction ps generalizing cs with
  | nil =>
    constructor
    · intro h
      exact ⟨[], cs, rfl, rfl, h⟩
    · rintro ⟨front, back, rfl, hfront, hback⟩
      cases front with
      | nil => exact hback
      | cons c rest => cases hfront
  | cons p ps ih =>
    cases cs with
    | nil => simp [fits]
    | cons c cs =>
      rw [List.cons_append, fits, Bool.and_eq_true, ih]
      constructor
      · rintro ⟨hc, front, back, rfl, hfront, hback⟩
        exact ⟨c :: front, back, rfl, by simp [fits, hc, hfront], hback⟩
      · rintro ⟨front, back, split, hfront, hback⟩
        cases front with
        | nil => cases hfront
        | cons d front =>
          obtain ⟨rfl, rfl⟩ := List.cons.inj split
          rw [fits, Bool.and_eq_true] at hfront
          exact ⟨hfront.1, front, back, rfl, hfront.2, hback⟩

theorem fits_cons_iff {p : Char → Bool} {ps : List (Char → Bool)} {cs : List Char} :
    fits (p :: ps) cs = true ↔ ∃ c rest, cs = c :: rest ∧ p c = true ∧ fits ps rest = true := by
  cases cs with
  | nil => simp [fits]
  | cons c rest => simp [fits, and_assoc]

theorem fits_hyphen_iff {ps : List (Char → Bool)} {cs : List Char} :
    fits ((· == '-') :: ps) cs = true ↔ ∃ rest, cs = '-' :: rest ∧ fits ps rest = true := by
  rw [fits_cons_iff]
  constructor
  · rintro ⟨c, rest, rfl, hc, hrest⟩
    exact ⟨rest, by rw [beq_iff_eq.1 hc], hrest⟩
  · rintro ⟨rest, rfl, hrest⟩
    exact ⟨'-', rest, rfl, beq_self_eq_true _, hrest⟩

theorem fits_digits_iff {n : Nat} {cs : List Char} :
    fits (List.replicate n isHex) cs = true ↔
      cs.length = n ∧ ∀ c ∈ cs, c ∈ hexDigits := by
  induction n generalizing cs with
  | zero => cases cs <;> simp [fits]
  | succ n ih =>
    cases cs with
    | nil => simp [fits, List.replicate_succ]
    | cons c cs =>
      rw [List.replicate_succ, fits, Bool.and_eq_true, ih, isHex_iff, List.forall_mem_cons,
        List.length_cons, Nat.succ_inj]
      exact and_left_comm

theorem fits_marked_iff {n : Nat} {p : Char → Bool} {marks cs : List Char}
    (hp : ∀ c, p c = true ↔ c ∈ marks)
    (hex : ∀ c ∈ marks, c ∈ hexDigits) :
    fits (p :: List.replicate n isHex) cs = true ↔
      (cs.length = n + 1 ∧ ∀ c ∈ cs, c ∈ hexDigits) ∧
        ∃ c ∈ marks, cs.head? = some c := by
  rw [fits_cons_iff]
  constructor
  · rintro ⟨c, rest, rfl, hc, hrest⟩
    obtain ⟨length, digits⟩ := fits_digits_iff.1 hrest
    have mark := (hp c).1 hc
    exact ⟨⟨by simp [length], List.forall_mem_cons.2 ⟨hex c mark, digits⟩⟩, c, mark, rfl⟩
  · rintro ⟨⟨length, digits⟩, c, mark, first⟩
    cases cs with
    | nil => cases first
    | cons d rest =>
      cases first
      rw [List.forall_mem_cons] at digits
      exact ⟨c, rest, rfl, (hp c).2 mark, fits_digits_iff.2 ⟨Nat.succ.inj length, digits.2⟩⟩

/-- The texts that are accepted are the hyphenated UUIDs of the versions 1 to 5. -/
theorem accepts_iff {s : String} :
    accepts s = true ↔ ∃ low mid high clock node, Hyphenated s low mid high clock node := by
  have versions {cs : List Char} :=
    @fits_marked_iff 3 isVersion _ cs (fun _ => isVersion_iff) (by simp [hexDigits])
  have variants {cs : List Char} :=
    @fits_marked_iff 3 isVariant _ cs (fun _ => isVariant_iff) (by simp [hexDigits])
  simp only [accepts, shape, fits_append_iff, fits_hyphen_iff, fits_digits_iff, versions, variants]
  constructor
  · rintro ⟨_, _, text, ⟨_, _, rfl, ⟨_, _, rfl, ⟨low, _, rfl, hlow, mid, rfl, hmid⟩,
      high, rfl, hhigh, version⟩, clock, rfl, hclock, variant⟩, node, rfl, hnode⟩
    refine ⟨low, mid, high, clock, node, text, ?_, ?_, version, variant⟩
    · simp [hlow.1, hmid.1, hhigh.1, hclock.1, hnode.1]
    · simp only [List.forall_mem_cons]
      exact ⟨hlow.2, hmid.2, hhigh.2, hclock.2, hnode.2, by simp⟩
  · rintro ⟨low, mid, high, clock, node, text, lengths, digits, version, variant⟩
    simp only [List.map_cons, List.cons.injEq] at lengths
    simp only [List.forall_mem_cons] at digits
    obtain ⟨hlow, hmid, hhigh, hclock, hnode, -⟩ := lengths
    obtain ⟨dlow, dmid, dhigh, dclock, dnode, -⟩ := digits
    exact ⟨_, _, text, ⟨_, _, rfl, ⟨_, _, rfl, ⟨low, _, rfl, ⟨hlow, dlow⟩, mid, rfl, hmid, dmid⟩,
      high, rfl, ⟨hhigh, dhigh⟩, version⟩, clock, rfl, ⟨hclock, dclock⟩, variant⟩,
      node, rfl, hnode, dnode⟩

end Uuid

/-! ## Types -/

namespace Field

/-- Whether a value is one of the type that a field declares. A date is a text that names a point in
time, and an enum that lists its values has no others. -/
def Describes (f : Field) (v : Value) : Prop :=
  match f.type with
  | .string => ∃ s, v = .string s
  | .number => ∃ n, v = .number n
  | .boolean => ∃ b, v = .bool b
  | .date => ∃ s t, v = .string s ∧ Calendar.parse? s = some t
  | .uuid => ∃ s, v = .string s ∧
      ∃ low mid high clock node, Uuid.Hyphenated s low mid high clock node
  | .enum => ∃ s, v = .string s ∧ ∀ allowed, f.enumValues = some allowed → s ∈ allowed

/-- Validation finds no fault with a value exactly if it is of the field's type. -/
theorem admits_iff_describes {f : Field} {v : Value} : f.Admits v ↔ f.Describes v := by
  unfold Admits typeFault? Describes
  cases f.type with
  | string => cases v <;> simp [Value.string?]
  | number => cases v <;> simp
  | boolean => cases v <;> simp
  | date =>
    cases v with
    | string s => cases h : Calendar.parse? s <;> simp [Value.string?, h]
    | _ => simp [Value.string?]
  | uuid =>
    cases v with
    | string s => simp [Value.string?, Uuid.accepts_iff]
    | _ => simp [Value.string?]
  | enum =>
    cases v with
    | string s => cases h : f.enumValues <;> simp [Value.string?]
    | _ => simp [Value.string?]

end Field

/-! ## Conditions -/

namespace Schema

/-- Whether a condition names a declared field that is filterable, uses an operator that the field
lists or, if it has no list, one that its type comes with, and has the operand that the operator
takes, with elements of the field's type. -/
def WellTyped (s : Schema) (c : Condition) : Prop :=
  ∃ f, s.field? c.field = some f ∧ f.filterable = true ∧
    c.operator ∈ f.allowedOperators.getD f.type.defaultOperators ∧
    c.operator.Fits f.Describes c.operand

theorem allows_iff_wellTyped {s : Schema} {c : Condition} : s.Allows c ↔ s.WellTyped c := by
  have fits (f : Field) :
      c.operator.Fits f.Admits c.operand ↔ c.operator.Fits f.Describes c.operand :=
    ⟨fun h => h.mono fun _ => Field.admits_iff_describes.1,
      fun h => h.mono fun _ => Field.admits_iff_describes.2⟩
  simp only [Allows, WellTyped, fits, Field.permits, Field.operators, List.contains_iff_mem]

end Schema

end SchemaFilter
