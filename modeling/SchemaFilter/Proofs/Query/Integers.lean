import SchemaFilter.Proofs.Decimal.Nearest
import SchemaFilter.Proofs.Query.Comparisons

/-!
# Comparisons of whole numbers

Two numbers are compared by the doubles nearest to them, also if both are whole. About whole numbers
of 64 bits a comparison is therefore exact as far as their doubles tell them apart: always if one of
the two is below `2 ^ 53` in magnitude or neither is above it, and otherwise unless both have the same
nearest double.

The operators go through one relation each. What is said of them all rests on two facts: an operator
decides its relation about the doubles, and doubles that tell two numbers apart have their order.
-/

namespace SchemaFilter

open Double (IsWord TellApart)

def Value.ofInt (n : Int) : Value :=
  .number (.integer n)

/-- The relation of whole numbers that an operator is meant to decide. -/
def Operator.relation? : Operator → Option (Int → Int → Bool)
  | eq => some fun a b => decide (a = b)
  | neq => some fun a b => decide (a ≠ b)
  | gt => some fun a b => decide (b < a)
  | lt => some fun a b => decide (a < b)
  | gte => some fun a b => decide (b ≤ a)
  | lte => some fun a b => decide (a ≤ b)
  | _ => none

namespace Value

variable {a b : Int}

theorem isScalar_ofInt (n : Int) : (ofInt n).IsScalar :=
  ⟨_, rfl⟩

theorem equal_ofInt :
    (ofInt a).equal (ofInt b) = decide ((Double.ofInt a).toInt = (Double.ofInt b).toInt) := rfl

theorem order?_ofInt : (ofInt a).order? (ofInt b) =
    some (orderInt (Double.ofInt a).toInt (Double.ofInt b).toInt) := rfl

theorem atLeast_ofInt : (ofInt a).atLeast (ofInt b) =
    decide ((Double.ofInt b).toInt ≤ (Double.ofInt a).toInt) := by
  rw [atLeast, order?_ofInt]
  generalize (Double.ofInt a).toInt = x
  generalize (Double.ofInt b).toInt = y
  simp only [orderInt]
  grind

theorem atMost_ofInt : (ofInt a).atMost (ofInt b) =
    decide ((Double.ofInt a).toInt ≤ (Double.ofInt b).toInt) := by
  rw [atMost, order?_ofInt]
  generalize (Double.ofInt a).toInt = x
  generalize (Double.ofInt b).toInt = y
  simp only [orderInt]
  grind

end Value

/-- An operator decides its relation about the doubles of whole numbers. -/
theorem Operator.holds_ofInt {op : Operator} {relation : Int → Int → Bool}
    (h : op.relation? = some relation) (a b : Int) :
    op.holds (.ofInt a) (.ofInt b) =
      relation (Double.ofInt a).toInt (Double.ofInt b).toInt := by
  cases op <;> cases h
  case eq => exact Value.equal_ofInt
  case neq => simp [holds, Value.equal_ofInt]
  case gt =>
    rw [holds, Value.order?_ofInt]
    simp only [Value.orderInt]
    grind
  case lt =>
    rw [holds, Value.order?_ofInt]
    simp only [Value.orderInt]
    grind
  case gte => exact Value.atLeast_ofInt
  case lte => exact Value.atMost_ofInt

/-- Doubles that tell two numbers apart are in the same relations as the numbers. -/
theorem Operator.relation_of_tellApart {op : Operator} {relation : Int → Int → Bool}
    (h : op.relation? = some relation) {a b : Int} (apart : TellApart a b) (ha : IsWord a)
    (hb : IsWord b) :
    relation (Double.ofInt a).toInt (Double.ofInt b).toInt = relation a b := by
  have less := apart.toInt_ofInt_lt_iff ha hb
  have equal : (Double.ofInt a).toInt = (Double.ofInt b).toInt ↔ a = b :=
    ⟨apart, fun same => by rw [same]⟩
  generalize (Double.ofInt a).toInt = x at *
  generalize (Double.ofInt b).toInt = y at *
  cases op <;> cases h <;> simp only [decide_eq_decide] <;> omega

namespace Condition

variable {name : String} {record : Value} {a : Int}

theorem answer_ofInt (unreserved : isReserved name = false) (held : record.field name = .ofInt a)
    {op : Operator} {relation : Int → Int → Bool} (h : op.relation? = some relation) (b : Int) :
    (Condition.mk name op (some (.ofInt b))).answer record =
      .ok (relation (Double.ofInt a).toInt (Double.ofInt b).toInt) := by
  have fits : op.Fits Value.IsScalar (some (.ofInt b)) := by
    cases op <;> cases h <;> exact ⟨_, rfl, Value.isScalar_ofInt b⟩
  have plain : op.site? = none := by
    cases op <;> cases h <;> rfl
  rw [answer_of_fits unreserved fits plain, holds_of_operand rfl, held,
    Operator.holds_ofInt h]

/-- Membership in a list of whole numbers answers whether the double of one of them is the same. -/
theorem answer_isIn_ofInt (unreserved : isReserved name = false)
    (held : record.field name = .ofInt a) (bs : List Int) :
    (Condition.mk name .isIn (some (.array (bs.map .ofInt)))).answer record =
      .ok (bs.any fun b => decide ((Double.ofInt a).toInt = (Double.ofInt b).toInt)) := by
  have fits : Operator.isIn.Fits Value.IsScalar (some (.array (bs.map .ofInt))) := by
    refine ⟨_, rfl, fun v hv => ?_⟩
    obtain ⟨b, -, rfl⟩ := List.mem_map.1 hv
    exact Value.isScalar_ofInt b
  rw [answer_of_fits unreserved fits rfl, holds_of_operand rfl, held]
  simp only [Operator.holds, Value.items?, Option.getD_some, List.any_map]
  rfl

/-- Whether every comparison of a field of a record with the second number answers as its relation
does about the two. -/
def ComparesExactly (name : String) (record : Value) (a b : Int) : Prop :=
  ∀ op relation, op.relation? = some relation →
    (Condition.mk name op (some (.ofInt b))).answer record = .ok (relation a b)

/-- Comparing two numbers is exact if they are told apart, and only then. -/
theorem comparesExactly_iff (unreserved : isReserved name = false)
    (held : record.field name = .ofInt a) (ha : IsWord a) {b : Int} (hb : IsWord b) :
    ComparesExactly name record a b ↔ TellApart a b := by
  constructor
  · intro exact same
    have equal := exact .eq _ rfl
    rw [answer_ofInt unreserved held rfl, Except.ok.injEq, decide_eq_decide] at equal
    exact equal.1 same
  · intro apart op relation h
    rw [answer_ofInt unreserved held h, Operator.relation_of_tellApart h apart ha hb]

/-- Membership is exact unless the number is taken for one in the list. -/
theorem answer_isIn_iff (unreserved : isReserved name = false)
    (held : record.field name = .ofInt a) (bs : List Int) :
    (Condition.mk name .isIn (some (.array (bs.map .ofInt)))).answer record =
        .ok (decide (a ∈ bs)) ↔
      a ∈ bs ∨ ∀ b ∈ bs, TellApart a b := by
  rw [answer_isIn_ofInt unreserved held, Except.ok.injEq]
  by_cases member : a ∈ bs
  · simp only [member, decide_true, true_or, iff_true, List.any_eq_true, decide_eq_true_eq]
    exact ⟨a, member, rfl⟩
  · simp only [member, decide_false, false_or, List.any_eq_false, decide_eq_true_eq]
    refine forall₂_congr fun b hb => ⟨fun differ same => absurd same differ, fun apart same => ?_⟩
    exact member (apart same ▸ hb)

/-- Bounds are exact unless the number lies beyond a bound that it is taken for. -/
theorem answer_inBounds_iff (unreserved : isReserved name = false)
    (held : record.field name = .ofInt a) (ha : IsWord a) {low high : Int} (hlow : IsWord low)
    (hhigh : IsWord high) :
    (inBounds name (.ofInt low) (.ofInt high)).answer record =
        .ok (decide (low ≤ a ∧ a ≤ high)) ↔
      (low ≤ a ∧ a ≤ high) ∨ (a < low ∧ TellApart a low) ∨ (high < a ∧ TellApart a high) := by
  rw [answer_inBounds unreserved (Value.isScalar_ofInt low) (Value.isScalar_ofInt high), held,
    Value.atLeast_ofInt, Value.atMost_ofInt, Except.ok.injEq]
  have above := Double.toInt_ofInt_mono hlow ha
  have below := Double.toInt_ofInt_mono ha hhigh
  have under := Double.toInt_ofInt_mono ha hlow
  have beyond := Double.toInt_ofInt_mono hhigh ha
  unfold TellApart
  generalize (Double.ofInt a).toInt = x at *
  generalize (Double.ofInt low).toInt = y at *
  generalize (Double.ofInt high).toInt = z at *
  rw [← Bool.decide_and, decide_eq_decide]
  omega

/-- A comparison of a field that holds a whole number of 64 bits with such a number is exact, under
every operator, exactly if their doubles tell the two apart. Membership is exact if the number is in
the list or is told apart from all that are. Bounds are exact if the number lies between them, or lies
beyond one that it is told apart from. Small numbers are told apart from all others. -/
theorem exact_on_integers_iff (unreserved : isReserved name = false)
    (held : record.field name = .ofInt a) (ha : IsWord a) :
    (∀ b, IsWord b → (ComparesExactly name record a b ↔ TellApart a b)) ∧
      (∀ bs : List Int, (Condition.mk name .isIn (some (.array (bs.map .ofInt)))).answer record =
          .ok (decide (a ∈ bs)) ↔ a ∈ bs ∨ ∀ b ∈ bs, TellApart a b) ∧
      (∀ low high, IsWord low → IsWord high →
        ((inBounds name (.ofInt low) (.ofInt high)).answer record =
            .ok (decide (low ≤ a ∧ a ≤ high)) ↔
          (low ≤ a ∧ a ≤ high) ∨ (a < low ∧ TellApart a low) ∨ (high < a ∧ TellApart a high))) ∧
      (∀ b, IsWord b → a.natAbs < Nat.pow 2 53 ∨ b.natAbs < Nat.pow 2 53 ∨
        a.natAbs ≤ Nat.pow 2 53 ∧ b.natAbs ≤ Nat.pow 2 53 → TellApart a b) :=
  ⟨fun _ => comparesExactly_iff unreserved held ha, answer_isIn_iff unreserved held,
    fun _ _ => answer_inBounds_iff unreserved held ha, fun _ => Double.tellApart_of_small ha⟩

/-- Beyond `2 ^ 53`, where doubles are two apart, a number is told apart from the next but two. -/
theorem exact_on_integers_of_distant :
    let record : Value := .object [("id", .ofInt 9007199254740993)]
    isReserved "id" = false ∧ record.field "id" = .ofInt 9007199254740993 ∧
      IsWord 9007199254740993 ∧ IsWord 9007199254740996 ∧
        TellApart 9007199254740993 9007199254740996 ∧
          ComparesExactly "id" record 9007199254740993 9007199254740996 := by
  intro record
  have unreserved : isReserved "id" = false := by decide
  have held : record.field "id" = .ofInt 9007199254740993 := rfl
  have word : IsWord 9007199254740993 := by decide +kernel
  have word' : IsWord 9007199254740996 := by decide +kernel
  have apart : TellApart 9007199254740993 9007199254740996 := by decide +kernel
  exact ⟨unreserved, held, word, word', apart,
    ((exact_on_integers_iff unreserved held word).1 _ word').2 apart⟩

/-- The first number that is no double is taken for the one before it. -/
theorem equal_answered_of_neighbours :
    let record : Value := .object [("id", .ofInt 9007199254740993)]
    let neighbour : Value := .ofInt 9007199254740992
    (Condition.mk "id" .eq (some neighbour)).answer record = .ok true ∧
      (Condition.mk "id" .gt (some neighbour)).answer record = .ok false ∧
        (Condition.mk "id" .isIn (some (.array [neighbour]))).answer record = .ok true := by
  intro record neighbour
  have unreserved : isReserved "id" = false := by decide
  have held : record.field "id" = .ofInt 9007199254740993 := rfl
  have same : (Double.ofInt 9007199254740993).toInt = (Double.ofInt 9007199254740992).toInt := by
    decide +kernel
  refine ⟨?_, ?_, ?_⟩
  · rw [answer_ofInt unreserved held rfl, same, decide_eq_true rfl]
  · rw [answer_ofInt unreserved held rfl, same, decide_eq_false (Int.lt_irrefl _)]
  · rw [show Value.array [neighbour] = .array ([9007199254740992].map .ofInt) from rfl,
      answer_isIn_ofInt unreserved held, List.any_cons, same, decide_eq_true rfl, Bool.true_or]

end Condition

end SchemaFilter
