import SchemaFilter.Proofs.Query.DocumentMeaning
import SchemaFilter.Proofs.Value.Order

/-!
# Comparisons of a field with a value

A condition that compares a field with a scalar answers as its operator does about the value of the
field. The answers of all conditions with one operand are put together in a `Comparison`. It is
coherent, that is exactly one of below, equal and above is the case and the other answers follow, for
every two values of one kind, unless they are different texts that name the same point in time.

Bounds of which the lower one is the greater one select no record, unless one of the bounds and the
value of the field is a text that names no point in time and the other two are texts that stand in
another order than what they name. Between two such bounds there is such a text, and it is selected.
-/

namespace SchemaFilter

open Document

/-! ## Scalars -/

namespace Value

variable {a b : Value}

theorem SameKind.isScalar (h : SameKind a b) : a.IsScalar ∧ b.IsScalar := by
  cases h with
  | numbers | texts | truths => exact ⟨⟨_, rfl⟩, ⟨_, rfl⟩⟩

theorem sameKind_of_equal (scalar : b.IsScalar) (h : a.equal b = true) : SameKind a b := by
  obtain ⟨text, htext⟩ := scalar
  cases b with
  | bool q =>
    cases a with
    | bool p => exact .truths p q
    | _ => simp [equal, same] at h
  | number n =>
    cases a with
    | number m => exact .numbers m n
    | _ => simp [equal, same] at h
  | string t =>
    cases a with
    | string s => exact .texts s t
    | _ => simp [equal, same] at h
  | null | array | object => cases htext

end Value

/-! ## Answers -/

namespace Condition

/-- The answer about a record of the document that a condition compiles to. -/
def answer (c : Condition) (record : Value) : Except QueryError Bool := do
  (Evaluator.of (← Filter.document (some (.condition c)))).matches? record

variable {c : Condition} {record : Value}

theorem answer_of_demand {demand : Value} (compiled : c.demand = .ok demand) :
    c.answer record = membersHold Pattern.ofText record [(c.field, demand)] := by
  have whole : Filter.document (some (.condition c)) = .ok ⟨[(c.field, demand)]⟩ :=
    Filter.document_some_eq_ok_iff.2
      ⟨_, Filter.documentMembers_condition_eq_ok_iff.2 ⟨demand, compiled, rfl⟩, rfl⟩
  rw [answer, whole, Outcome.ok_bind, Evaluator.matches?_of, matches?]

/-- A condition that looks for no pattern answers whether it holds, if its field can be named and its
operand fits its operator. -/
theorem answer_of_fits (unreserved : isReserved c.field = false)
    (fits : c.operator.Fits Value.IsScalar c.operand) (plain : c.operator.site? = none) :
    c.answer record = .ok (c.holds record) := by
  have small : c.PatternFits := by
    intro site text hsite
    rw [plain] at hsite
    cases hsite
  obtain ⟨demand, compiled, agrees⟩ := faithful_of_fits fits small
  rw [answer_of_demand compiled, Filter.membersHold_field unreserved, agrees]

/-- The condition that a field lies between two bounds. -/
def inBounds (name : String) (low high : Value) : Condition :=
  ⟨name, .between, some (.array [low, high])⟩

theorem answer_inBounds {name : String} {low high : Value} (unreserved : isReserved name = false)
    (hlow : low.IsScalar) (hhigh : high.IsScalar) : (inBounds name low high).answer record =
      .ok ((record.field name).atLeast low && (record.field name).atMost high) :=
  answer_of_fits (c := inBounds name low high) unreserved ⟨low, high, rfl, hlow, hhigh⟩ rfl

end Condition

/-! ## One operand -/

/-- The answers of all conditions that compare a field with one value: whether it is below, equal or
above, at least, at most, and within the bounds that both are that value. -/
structure Comparison where
  below : Bool
  equal : Bool
  above : Bool
  atLeast : Bool
  atMost : Bool
  within : Bool
deriving DecidableEq

namespace Comparison

def of (name : String) (operand record : Value) : Except QueryError Comparison := do
  let below ← (Condition.mk name .lt (some operand)).answer record
  let equal ← (Condition.mk name .eq (some operand)).answer record
  let above ← (Condition.mk name .gt (some operand)).answer record
  let atLeast ← (Condition.mk name .gte (some operand)).answer record
  let atMost ← (Condition.mk name .lte (some operand)).answer record
  let within ← (Condition.inBounds name operand operand).answer record
  return { below, equal, above, atLeast, atMost, within }

/-- Whether exactly one of below, equal and above is the case, and the other answers follow from
these. -/
def IsCoherent (c : Comparison) : Prop :=
  [c.below, c.equal, c.above].count true = 1 ∧ c.atLeast = (c.above || c.equal) ∧
    c.atMost = (c.below || c.equal) ∧ c.within = c.equal

instance (c : Comparison) : Decidable c.IsCoherent :=
  inferInstanceAs (Decidable (_ ∧ _))

/-- The comparison of values of which neither comes before the other, though they are not equal. -/
def level : Comparison :=
  ⟨false, false, false, true, true, true⟩

/-- The comparison of values that are not ordered. -/
def apart : Comparison :=
  ⟨false, false, false, false, false, false⟩

/-- The comparison of two values, told by their order and their equality. -/
def ofOrder (order : Option Ordering) (equal : Bool) : Comparison where
  below := order == some .lt
  equal := equal
  above := order == some .gt
  atLeast := order.any (· != .lt)
  atMost := order.any (· != .gt)
  within := order.any (· != .lt) && order.any (· != .gt)

variable {name : String} {operand record : Value}

theorem of_eq_ok (unreserved : isReserved name = false) (scalar : operand.IsScalar) :
    of name operand record = .ok
      (ofOrder ((record.field name).order? operand) ((record.field name).equal operand)) := by
  have one (op : Operator) (fits : op.Fits Value.IsScalar (some operand))
      (plain : op.site? = none) : (Condition.mk name op (some operand)).answer record =
        .ok (op.holds (record.field name) operand) :=
    Condition.answer_of_fits unreserved fits plain
  have fits : ∃ v, some operand = some v ∧ v.IsScalar := ⟨operand, rfl, scalar⟩
  rw [of, one .lt fits rfl, one .eq fits rfl, one .gt fits rfl, one .gte fits rfl,
    one .lte fits rfl, Condition.answer_inBounds unreserved scalar scalar]
  rfl

theorem ofOrder_none : ofOrder none false = apart := rfl

theorem ofOrder_eq_not_equal : ofOrder (some .eq) false = level := rfl

/-- Ordered values have a coherent comparison if they are equal exactly when neither comes before the
other. -/
theorem isCoherent_ofOrder {order : Ordering} {equal : Bool} (agree : order = .eq ↔ equal = true) :
    (ofOrder (some order) equal).IsCoherent := by
  cases order <;> cases equal <;> simp at agree <;> decide

/-- A field that holds a value of the same kind as the operand has a coherent comparison with it,
unless the two are different texts that name the same point in time: then neither is below the other
and they are not equal. A field that holds no value of that kind is apart from the operand. -/
theorem of_isCoherent_unless_synonymous (unreserved : isReserved name = false)
    (scalar : operand.IsScalar) :
    ∃ c, of name operand record = .ok c ∧
      (Value.SameKind (record.field name) operand →
        (¬Value.Synonymous (record.field name) operand → c.IsCoherent) ∧
        (Value.Synonymous (record.field name) operand → c = level)) ∧
      (¬Value.SameKind (record.field name) operand → c = apart) := by
  refine ⟨_, of_eq_ok unreserved scalar, fun kind => ?_, fun kind => ?_⟩
  · obtain ⟨order, ordered, alike⟩ := kind.exists_order?
    rw [ordered]
    constructor
    · intro distinct
      exact isCoherent_ofOrder (alike.trans (or_iff_left distinct))
    · intro synonymous
      rw [alike.2 (.inr synonymous), synonymous.equal_eq_false, ofOrder_eq_not_equal]
  · have unordered : (record.field name).order? operand = none :=
      Option.eq_none_iff_forall_ne_some.2 fun _ ordered => kind (Value.sameKind_of_order? ordered)
    have unequal : (record.field name).equal operand = false :=
      Bool.eq_false_iff.2 fun equal => kind (Value.sameKind_of_equal scalar equal)
    rw [unordered, unequal, ofOrder_none]

/-- A date and a point in time with an offset, which comes four hours later in another year. -/
theorem of_isCoherent_of_new_year :
    let record : Value := .object [("at", .string "2024-01-01")]
    let operand : Value := .string "2023-12-31T23:00:00-05:00"
    isReserved "at" = false ∧ operand.IsScalar ∧ Value.SameKind (record.field "at") operand ∧
      ¬Value.Synonymous (record.field "at") operand ∧
        ∃ c, of "at" operand record = .ok c ∧ c.IsCoherent := by
  intro record operand
  have unreserved : isReserved "at" = false := by decide
  have scalar : operand.IsScalar := ⟨_, rfl⟩
  have kind : Value.SameKind (record.field "at") operand := .texts _ _
  have distinct : ¬Value.Synonymous (record.field "at") operand := by
    rintro ⟨s, t, x, first, second, -, hs, ht⟩
    rw [← Value.string.inj first] at hs
    rw [← Value.string.inj second] at ht
    have differs : Calendar.parse? "2024-01-01" ≠ Calendar.parse? "2023-12-31T23:00:00-05:00" := by
      decide +kernel
    exact differs (hs.trans ht.symm)
  obtain ⟨c, answered, coherent, -⟩ := of_isCoherent_unless_synonymous unreserved scalar
  exact ⟨unreserved, scalar, kind, distinct, c, answered, (coherent kind).1 distinct⟩

/-- Midnight and its date are not equal, and neither comes before the other: no two of the answers
that should follow from one another do. -/
theorem not_isCoherent_of_midnight :
    let record : Value := .object [("at", .string "2023-01-01T00:00:00Z")]
    let operand : Value := .string "2023-01-01"
    Value.SameKind (record.field "at") operand ∧
      ∃ c, of "at" operand record = .ok c ∧ [c.below, c.equal, c.above].count true = 0 ∧
        c.atLeast ≠ (c.above || c.equal) ∧ c.atMost ≠ (c.below || c.equal) ∧
          c.within ≠ c.equal := by
  intro record operand
  have ordered : (record.field "at").order? operand = some .eq := by decide +kernel
  have unequal : (record.field "at").equal operand = false := by decide +kernel
  refine ⟨.texts _ _, level, ?_, by decide⟩
  rw [of_eq_ok (by decide) ⟨_, rfl⟩, ordered, unequal, ofOrder_eq_not_equal]

end Comparison

/-! ## Two bounds -/

namespace Condition

variable {name : String} {low high record : Value}

/-- Bounds on a reserved name fail: they are no list of documents, and there is no such operator. -/
theorem exists_answer_eq_error (low high record : Value) (reserved : isReserved name = true) :
    ∃ e, (inBounds name low high).answer record = .error e := by
  have compiled : (inBounds name low high).demand =
      .ok (.object [("$gte", low), ("$lte", high)]) := rfl
  rw [answer_of_demand compiled]
  by_cases conjunction : name = "$and"
  · exact ⟨_, by simp [inBounds, membersHold, conjunction, listHolds]; rfl⟩
  · by_cases disjunction : name = "$or"
    · exact ⟨_, by simp [inBounds, membersHold, disjunction, listHolds]; rfl⟩
    · exact ⟨_, by simp [inBounds, membersHold, conjunction, disjunction, reserved]; rfl⟩

/-- No record lies between two bounds of which the lower one is the greater one, unless the field is
mixed with the bounds. -/
theorem answer_of_reversed (reversed : low.order? high = some .gt)
    (plain : ¬Value.Mixed (record.field name) low high) :
    (inBounds name low high).answer record ≠ .ok true ∧
      (isReserved name = false → (inBounds name low high).answer record = .ok false) := by
  obtain ⟨hlow, hhigh⟩ := (Value.sameKind_of_order? reversed).isScalar
  have outside (unreserved : isReserved name = false) :
      (inBounds name low high).answer record = .ok false := by
    rw [answer_inBounds unreserved hlow hhigh, Value.not_within reversed plain]
  refine ⟨fun selected => ?_, outside⟩
  cases reserved : isReserved name with
  | false =>
    rw [outside reserved] at selected
    cases selected
  | true =>
    obtain ⟨e, failed⟩ := exists_answer_eq_error low high record reserved
    rw [failed] at selected
    cases selected

end Condition

namespace Value

open Condition (inBounds)

/-- A value that breaks the order of two bounds, of which the lower one is the greater one, lies
between them. -/
theorem within_of_breaks {m low high : Value} (reversed : low.order? high = some .gt)
    (breaks : Breaks m low high ∨ Breaks m high low) : (m.atLeast low && m.atMost high) = true := by
  have ordered : high.order? low = some .lt := by rw [order?_swap low, reversed]; rfl
  rcases breaks with ⟨above, below, -⟩ | ⟨-, -, broken⟩
  · have above' : m.order? low = some .gt := by rw [order?_swap low, above]; rfl
    rw [atLeast, atMost, above', below]
    rfl
  · exact absurd ordered broken

/-- Exchanging two values reverses their order, and unless three values are mixed, their order goes
on from the first over the second to the third, and bounds of which the lower one is the greater one
select no record. The exception is needed: two texts that stand in another order than the points in
time that they name have a text that breaks their order, and such bounds select it. -/
theorem order?_lawful_unless_mixed (a b c : Value) :
    b.order? a = (a.order? b).map Ordering.swap ∧
      (¬Mixed a b c → a.order? b = some .lt → b.order? c = some .lt → a.order? c = some .lt) ∧
      (a.order? c = some .gt → ∀ name record, record.field name = b → ¬Mixed b a c →
        (inBounds name a c).answer record ≠ .ok true ∧
          (isReserved name = false → (inBounds name a c).answer record = .ok false)) ∧
      (Crossed a c → ∃ m, IsTimeless m ∧ (Breaks m a c ∨ Breaks m c a) ∧
        (a.order? c = some .gt → ∀ name record, isReserved name = false → record.field name = m →
          (inBounds name a c).answer record = .ok true)) := by
  refine ⟨order?_swap a b, fun plain hab hbc => order?_trans hab hbc plain, ?_, ?_⟩
  · rintro reversed name record rfl plain
    exact Condition.answer_of_reversed reversed plain
  · intro crossed
    obtain ⟨m, timeless, breaks⟩ := crossed.exists_breaks
    refine ⟨m, timeless, breaks, ?_⟩
    rintro reversed name record unreserved rfl
    obtain ⟨ha, hc⟩ := (sameKind_of_order? reversed).isScalar
    rw [Condition.answer_inBounds unreserved ha hc, within_of_breaks reversed breaks]

/-- Three points in time in three layouts, of which the texts of the first two stand in the other
order. -/
theorem order?_lawful_of_new_year :
    let first : Value := .string "2024-01-02"
    let second : Value := .string "2024-01-01T23:00:00-05:00"
    let third : Value := .string "2024-01-02T05:00:00Z"
    let record : Value := .object [("at", second)]
    ¬Mixed first second third ∧ first.order? second = some .lt ∧
      second.order? third = some .lt ∧ first.order? third = some .lt ∧
        third.order? first = some .gt ∧ ¬Mixed second third first ∧
          (inBounds "at" third first).answer record = .ok false := by
  intro first second third record
  have timed (v : Value) (h : v ∈ [first, second, third]) : ¬IsTimeless v := by
    rintro ⟨s, rfl, timeless⟩
    simp only [first, second, third, List.mem_cons, string.injEq, List.not_mem_nil, or_false] at h
    rcases h with rfl | rfl | rfl <;> revert timeless <;> decide +kernel
  have plain : ¬Mixed first second third := by
    rintro (⟨h, -⟩ | ⟨h, -⟩ | ⟨h, -⟩) <;> exact timed _ (by simp) h
  have plain' : ¬Mixed second third first := by
    rintro (⟨h, -⟩ | ⟨h, -⟩ | ⟨h, -⟩) <;> exact timed _ (by simp) h
  have before : first.order? second = some .lt := by decide +kernel
  have after : second.order? third = some .lt := by decide +kernel
  have through : first.order? third = some .lt :=
    (order?_lawful_unless_mixed first second third).2.1 plain before after
  have reversed : third.order? first = some .gt := by
    rw [(order?_lawful_unless_mixed first third second).1, through]
    rfl
  have outside :=
    (order?_lawful_unless_mixed third second first).2.2.1 reversed "at" record rfl plain'
  exact ⟨plain, before, after, through, reversed, plain', outside.2 (by decide)⟩

/-- A text that names no point in time stands between two bounds as a text, though the lower bound
comes after the upper one in time. -/
theorem order?_not_transitive_of_hour :
    let low : Value := .string "2024-01-01T00:00:00-05:00"
    let hour : Value := .string "2024-01-01T01"
    let high : Value := .string "2024-01-01T02:00:00Z"
    low.order? hour = some .lt ∧ hour.order? high = some .lt ∧ low.order? high = some .gt ∧
      (inBounds "at" low high).answer (.object [("at", hour)]) = .ok true := by
  intro low hour high
  have above : low.order? hour = some .lt := by decide +kernel
  have below : hour.order? high = some .lt := by decide +kernel
  have reversed : low.order? high = some .gt := by decide +kernel
  have broken : low.order? high ≠ some .lt := by rw [reversed]; decide
  refine ⟨above, below, reversed, ?_⟩
  rw [Condition.answer_inBounds (by decide) ⟨_, rfl⟩ ⟨_, rfl⟩]
  exact congrArg Except.ok (within_of_breaks reversed (.inl ⟨above, below, broken⟩))

end Value

end SchemaFilter
