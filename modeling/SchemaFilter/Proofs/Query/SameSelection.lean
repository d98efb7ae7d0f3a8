import SchemaFilter.Proofs.Query.ClauseReading
import SchemaFilter.Proofs.Query.DocumentMeaning
import SchemaFilter.Proofs.Query.Placeholders

/-!
# Documents and clauses

A filter may be handed to a store of documents or to a database. To a document null is a value like
others, while a database does not know how NULL compares. For all operators but one that makes no
difference: what is not known does not select a row, and null neither equals an operand of a filter
nor is it ordered with one. The exception is that null is unequal to every operand, where NULL is
not known to be.

So a document selects every record that the clause selects, and the two select the same records as
long as no field that a filter wants to be unequal to something is null or missing. Patterns are left
out, since databases differ in what LIKE does.
-/

namespace SchemaFilter

open Sql

/-! ## Conditions -/

/-- Whether a test asks if NULL is unequal to something. -/
def Sql.Test.asksUnequalNull (row : Value) (t : Test) : Bool :=
  t.form = .comparison .unequal && (row.field t.field).isNull

namespace Value

theorem IsScalar.isNull_eq_false {v : Value} (h : v.IsScalar) : v.isNull = false := by
  obtain ⟨text, scalar⟩ := h
  cases v with
  | null => cases scalar
  | _ => rfl

theorem IsScalar.null_equal {v : Value} (h : v.IsScalar) : null.equal v = false := by
  obtain ⟨text, scalar⟩ := h
  cases v with
  | null => cases scalar
  | _ => rfl

theorem null_order? (v : Value) : null.order? v = none := by
  cases v <;> rfl

theorem null_atLeast (v : Value) : null.atLeast v = false := by
  rw [atLeast, null_order?]
  rfl

theorem null_atMost (v : Value) : null.atMost v = false := by
  rw [atMost, null_order?]
  rfl

end Value

namespace Sql

theorem compared_null (decided : Value → Value → Bool) (v : Value) :
    compared decided .null (some v) = .unknown := rfl

/-- Two values that are not null compare as is decided. -/
theorem compared_of_isNull_eq_false {decided : Value → Value → Bool} {a v : Value}
    (h : a.isNull = false) (scalar : v.IsScalar) :
    compared decided a (some v) = .ofBool (decided a v) := by
  rw [compared, h, scalar.isNull_eq_false]
  rfl

/-- A comparison that null fails is true exactly if it holds. -/
theorem compared_beq_yes {decided : Value → Value → Bool} {a v : Value} (scalar : v.IsScalar)
    (fails : decided .null v = false) : (compared decided a (some v) == .yes) = decided a v := by
  cases h : a.isNull with
  | true =>
    rw [Value.eq_null_of_isNull h, compared_null, fails]
    rfl
  | false => rw [compared_of_isNull_eq_false h scalar, Truth.ofBool_beq_yes]

/-- Of a list, one comparison has to be true. -/
theorem membership_beq_yes {a : Value} {items : List Value} (scalars : ∀ v ∈ items, v.IsScalar) :
    ((items.map some).foldr (fun operand others => (compared Value.equal a operand).or others)
      .no == .yes) = items.any a.equal := by
  induction items with
  | nil => rfl
  | cons v rest ih =>
    rw [List.forall_mem_cons] at scalars
    rw [List.map_cons, List.foldr_cons, List.any_cons, Truth.or_beq_yes, ih scalars.2,
      compared_beq_yes scalars.1 scalars.1.null_equal]

end Sql

/-- Of the comparisons null fulfils one, being unequal. -/
theorem Sql.Sign.null_holds (s : Sign) {v : Value} (scalar : v.IsScalar) :
    s.holds .null v = decide (s = .unequal) := by
  cases s <;>
    simp [holds, scalar.null_equal, Value.null_order?, Value.null_atLeast, Value.null_atMost]

theorem Operator.holds_eq_sign {op : Operator} {s : Sign} (form : op.form = .comparison s)
    (a v : Value) : op.holds a v = s.holds a v := by
  cases op <;> cases form <;> rfl

namespace Condition

variable {like : Value → Value → Bool} {record : Value}

/-- A test asks if NULL is unequal to something only if the condition does, of a field that is
null. -/
theorem asksUnequalNull_eq_false {c : Condition}
    (h : c.operator = .neq → (record.field c.field).isNull = false) :
    (c.test some).asksUnequalNull record = false := by
  rw [Sql.Test.asksUnequalNull, Bool.and_eq_false_iff, decide_eq_false_iff_not]
  by_cases unequal : c.operator = .neq
  · exact .inr (h unequal)
  · left
    intro same
    cases hop : c.operator <;> simp_all [test, Operator.form]

theorem holds_comparison {field : String} {op : Operator} {v : Value} {s : Sign}
    (form : op.form = .comparison s) (scalar : v.IsScalar) :
    let c : Condition := ⟨field, op, some v⟩
    c.holds record = ((c.test some).truth like record == .yes ||
      (c.test some).asksUnequalNull record) := by
  intro c
  have operands : c.operands = [v] := by cases op <;> cases form <;> rfl
  have tested : c.test some = ⟨field, .comparison s, [some v]⟩ := by
    rw [test, operands, show c.operator.form = .comparison s from form]
    rfl
  rw [tested, show c.holds record = op.holds (record.field field) v from rfl,
    Operator.holds_eq_sign form]
  change _ = (compared s.holds (record.field field) (some v) == .yes ||
    (decide (Form.comparison s = .comparison .unequal) && (record.field field).isNull))
  cases h : (record.field field).isNull with
  | true =>
    rw [Value.eq_null_of_isNull h, compared_null, s.null_holds scalar]
    simp
  | false =>
    rw [compared_of_isNull_eq_false h scalar, Truth.ofBool_beq_yes]
    simp

/-- A condition without a pattern holds exactly if its test is true, or asks if NULL is unequal to
something. -/
theorem holds_eq_truth {c : Condition} (fits : c.operator.Fits Value.IsScalar c.operand)
    (textless : c.operator.site? = none) (like : Value → Value → Bool) (record : Value) :
    c.holds record = ((c.test some).truth like record == .yes ||
      (c.test some).asksUnequalNull record) := by
  obtain ⟨field, op, operand⟩ := c
  cases op with
  | eq | neq | gt | lt | gte | lte =>
    obtain ⟨v, rfl, scalar⟩ := fits
    exact holds_comparison rfl scalar
  | isIn =>
    obtain ⟨items, rfl, scalars⟩ := fits
    rw [asksUnequalNull_eq_false (by simp), Bool.or_false]
    exact (membership_beq_yes scalars).symm
  | between =>
    obtain ⟨low, high, rfl, first, second⟩ := fits
    -- a bound is compared with like a single operand, and null keeps neither
    have bounds (a : Value) : ((compared Value.atLeast a (some low)).and
        (compared Value.atMost a (some high)) == .yes) = (a.atLeast low && a.atMost high) := by
      rw [Truth.and_beq_yes, compared_beq_yes first (Value.null_atLeast low),
        compared_beq_yes second (Value.null_atMost high)]
    rw [asksUnequalNull_eq_false (by simp), Bool.or_false]
    exact (bounds _).symm
  | isNull =>
    rw [asksUnequalNull_eq_false (by simp), Bool.or_false]
    cases fits
    exact (Truth.ofBool_beq_yes _).symm
  | isNotNull =>
    rw [asksUnequalNull_eq_false (by simp), Bool.or_false]
    cases fits
    exact (Truth.ofBool_beq_yes _).symm
  | contains | startsWith | endsWith => cases textless

theorem holds_of_isEmptyMembership {c : Condition} (h : c.isEmptyMembership = true) :
    c.holds record = false := by
  unfold isEmptyMembership at h
  split at h
  · next hop hoperand => rw [holds, hoperand, hop]; rfl
  · cases h

end Condition

/-! ## Trees -/

namespace Filter

open Clause

variable {answer : Condition × Nat → Bool} {record : Value}

theorem listHoldsGiven_eq {list : List Filter}
    (h : ∀ f ∈ list, ∀ start, f.holdsGiven answer start = f.holds record) (start : Nat) :
    listHoldsGiven answer .and start list = allHold record list ∧
      listHoldsGiven answer .or start list = someHolds record list := by
  induction list generalizing start with
  | nil => exact ⟨rfl, rfl⟩
  | cons f rest ih =>
    rw [List.forall_mem_cons] at h
    obtain ⟨all, some⟩ := ih h.2 (start + f.conditionCount)
    rw [listHoldsGiven, listHoldsGiven, h.1, all, some]
    exact ⟨rfl, rfl⟩

theorem branchHoldsGiven_eq {branch : Option (List Filter)}
    (h : ∀ f ∈ children branch, ∀ start, f.holdsGiven answer start = f.holds record)
    (start : Nat) :
    branchHoldsGiven answer .and start branch = branchHolds record true branch ∧
      branchHoldsGiven answer .or start branch = branchHolds record false branch := by
  cases branch with
  | none => exact ⟨rfl, rfl⟩
  | some list => exact listHoldsGiven_eq h start

/-- If the answers say of every condition whether it holds of a record, they do so of the filter. -/
theorem holdsGiven_eq_holds {f : Filter}
    (h : ∀ c ∈ f.leaves, ∀ number, answer (c, number) = c.holds record) :
    ∀ start, f.holdsGiven answer start = f.holds record := by
  induction f with
  | condition c =>
    intro start
    rw [holdsGiven, h c (by simp), holds]
  | group conjuncts disjuncts first second =>
    rw [forall_leaves_group] at h
    intro start
    rw [holdsGiven, holds, (branchHoldsGiven_eq (fun f hf => first f hf (h.1 f hf)) start).1,
      (branchHoldsGiven_eq (fun f hf => second f hf (h.2 f hf)) _).2]

/-- The search condition of a filter, with its operands in their places. -/
def searchCondition (f : Filter) : Expression Test :=
  (f.expression 0).map (numberedTest some)

theorem tests_searchCondition (f : Filter) : f.searchCondition.tests =
    (f.leaves.filter fun leaf => !leaf.isEmptyMembership).map (Condition.test some) := by
  rw [searchCondition, Expression.tests_map, tests_expression, map_numberedTest_tested]

/-- A search condition holds exactly if the filter does, NULL being taken to be unequal to
everything. -/
theorem holds_searchCondition {f : Filter} (like : Value → Value → Bool)
    (fits : ∀ c ∈ f.leaves, c.operator.Fits Value.IsScalar c.operand)
    (textless : ∀ c ∈ f.leaves, c.operator.site? = none) :
    f.searchCondition.holds
      (fun t => t.truth like record == .yes || t.asksUnequalNull record) = f.holds record := by
  rw [searchCondition, Expression.holds_map, holds_expression]
  refine holdsGiven_eq_holds (fun c hc number => ?_) 0
  have leaf : c.holds record = _ := Condition.holds_eq_truth (fits c hc) (textless c hc) like record
  rw [sparing, numberedTest, ← leaf]
  cases empty : c.isEmptyMembership with
  | true => rw [Condition.holds_of_isEmptyMembership empty]; rfl
  | false => rfl

/-- What a search condition is true of fulfils the filter. -/
theorem holds_of_truth_eq_yes {f : Filter} {like : Value → Value → Bool}
    (fits : ∀ c ∈ f.leaves, c.operator.Fits Value.IsScalar c.operand)
    (textless : ∀ c ∈ f.leaves, c.operator.site? = none)
    (h : f.searchCondition.truth (Test.truth like record) = .yes) : f.holds record = true := by
  rw [← beq_iff_eq, Expression.truth_beq_yes] at h
  rw [← holds_searchCondition like fits textless]
  exact Expression.holds_mono (fun t _ known => by rw [known, Bool.true_or]) h

/-- A search condition is true of what fulfils the filter, if no field is null that has to be unequal
to something. -/
theorem truth_eq_yes_of_holds {f : Filter} {like : Value → Value → Bool}
    (fits : ∀ c ∈ f.leaves, c.operator.Fits Value.IsScalar c.operand)
    (textless : ∀ c ∈ f.leaves, c.operator.site? = none)
    (present : ∀ c ∈ f.leaves, c.operator = .neq → (record.field c.field).isNull = false)
    (h : f.holds record = true) : f.searchCondition.truth (Test.truth like record) = .yes := by
  rw [← holds_searchCondition like fits textless] at h
  rw [← beq_iff_eq, Expression.truth_beq_yes]
  refine Expression.holds_mono (fun t ht known => ?_) h
  rw [tests_searchCondition] at ht
  obtain ⟨c, hc, rfl⟩ := List.mem_map.1 ht
  have leaf := present c (List.mem_of_mem_filter hc)
  rwa [Condition.asksUnequalNull_eq_false leaf, Bool.or_false] at known

/-- A filter without patterns that a schema accepts compiles to a document and to a clause. The clause
says one search condition: its text spells tokens, the very ones found in it if the names of fields
are plain, and with the parameters in the places of the placeholders they read as the condition.

A record is selected by the document exactly if the search condition holds of it, NULL being taken
to be unequal to everything. So the document selects every record for which the search condition is
true, and it selects no others unless a field is null or missing that has to be unequal to
something. -/
theorem document_holds_iff_clause_true {fields : List Field} {s : Schema} {f : Filter}
    (checked : Schema.ofFields fields = .ok s) (valid : s.faults (some f) = [])
    (textless : ∀ leaf ∈ f.leaves, leaf.operator.site? = none) :
    ∃ d c ts e, document (some f) = .ok d ∧ clause (some f) = .ok c ∧ Spells ts c.text ∧
      ((∀ leaf ∈ f.leaves, IsName leaf.field) → tokensOf? c.text.toList = some ts) ∧
      IsCondition (bound ts c.parameters) e ∧
      e.tests = (f.leaves.filter fun leaf => !leaf.isEmptyMembership).map (Condition.test some) ∧
      ∀ (like : Value → Value → Bool) (record : Value), ∃ selected,
        (Evaluator.of d).matches? record = .ok selected ∧
        selected = e.holds (fun t => t.truth like record == .yes || t.asksUnequalNull record) ∧
        (e.truth (Test.truth like record) = .yes → selected = true) ∧
        ((∀ leaf ∈ f.leaves, leaf.operator = .neq → (record.field leaf.field).isNull = false) →
          (selected = true ↔ e.truth (Test.truth like record) = .yes)) := by
  have allowed := Schema.faults_eq_nil_iff.1 valid
  have fits : ∀ leaf ∈ f.leaves, leaf.operator.Fits Value.IsScalar leaf.operand :=
    fun leaf hleaf => (allowed leaf hleaf).fits
  have accepted : ∀ leaf ∈ f.leaves, leaf.refusal? = none :=
    fun leaf hleaf => Condition.refusal?_of_allows (allowed leaf hleaf)
  have small : ∀ leaf ∈ f.leaves, leaf.PatternFits := by
    intro leaf hleaf site text hsite
    rw [textless leaf hleaf] at hsite
    cases hsite
  obtain ⟨members, compiled, hold⟩ := faithful_of_leaves fun leaf hleaf =>
    ⟨(allowed leaf hleaf).isReserved_eq_false (Schema.isReserved_eq_false checked),
      Condition.faithful_of_fits (fits leaf hleaf) (small leaf hleaf)⟩
  have document_eq : document (some f) = .ok ⟨members⟩ := by simp [document, compiled]
  have clause_eq : clause (some f) = .ok ⟨f.rendered mark, operands f.leaves⟩ :=
    clause_eq_ok_iff.2 ⟨accepted, rfl⟩
  obtain ⟨ts, spells, plain, reads⟩ := (isReadable accepted 0).reads_bound
  refine ⟨_, _, ts, f.searchCondition, document_eq, clause_eq, spells, ?_, reads,
    f.tests_searchCondition, fun like record => ?_⟩
  · intro names
    exact plain fun x hx => names x.1 (mem_leaves_of_mem_tests hx)
  · have matched := Evaluator.matches?_of ⟨members⟩ record
    refine ⟨f.holds record, matched.trans (hold record),
      (holds_searchCondition like fits textless).symm, holds_of_truth_eq_yes fits textless, ?_⟩
    intro present
    exact ⟨truth_eq_yes_of_holds fits textless present, holds_of_truth_eq_yes fits textless⟩

/-- The name may be missing, since nothing is wanted of it but that it be null or a certain text. -/
theorem document_holds_of_true_clause :
    let fields : List Field :=
      [{ name := "name", type := .string }, { name := "role", type := .string }]
    let filter : Filter := .group (some [.condition ⟨"role", .neq, some (.string "guest")⟩])
      (some [.condition ⟨"name", .isNull, none⟩, .condition ⟨"name", .eq, some (.string "Al")⟩])
    let record : Value := .object [("role", .string "admin")]
    Schema.ofFields fields = .ok ⟨none, fields⟩ ∧ Schema.faults ⟨none, fields⟩ (some filter) = [] ∧
      (∀ leaf ∈ filter.leaves, leaf.operator.site? = none) ∧
      ∃ d c ts e, document (some filter) = .ok d ∧ clause (some filter) = .ok c ∧
        tokensOf? c.text.toList = some ts ∧ IsCondition (bound ts c.parameters) e ∧
        (Evaluator.of d).matches? record = .ok true ∧
        ∀ like, e.truth (Test.truth like record) = .yes := by
  intro fields filter record
  have checked : Schema.ofFields fields = .ok ⟨none, fields⟩ := rfl
  have valid : Schema.faults ⟨none, fields⟩ (some filter) = [] := by decide
  have textless : ∀ leaf ∈ filter.leaves, leaf.operator.site? = none := by decide
  have names : ∀ leaf ∈ filter.leaves, IsName leaf.field := by decide
  have present : ∀ leaf ∈ filter.leaves, leaf.operator = .neq →
      (record.field leaf.field).isNull = false := by decide
  obtain ⟨d, c, ts, e, compiled, written, -, plain, reads, -, selects⟩ :=
    document_holds_iff_clause_true checked valid textless
  have hit : (Evaluator.of d).matches? record = .ok true := by
    cases compiled
    rfl
  refine ⟨checked, valid, textless, d, c, ts, e, compiled, written, plain names, reads, hit,
    fun like => ?_⟩
  obtain ⟨selected, matched, -, -, exactly⟩ := selects like record
  cases hit.symm.trans matched
  exact (exactly present).1 rfl

/-- Of a record without an age the document says that the age is not thirty, and the clause does not
know. -/
theorem clause_unknown_of_missing_field :
    let fields : List Field := [{ name := "age", type := .number }]
    let filter : Filter := .condition ⟨"age", .neq, some (.ofNat 30)⟩
    let record : Value := .object []
    Schema.ofFields fields = .ok ⟨none, fields⟩ ∧ Schema.faults ⟨none, fields⟩ (some filter) = [] ∧
      ∃ d c ts, document (some filter) = .ok d ∧ (Evaluator.of d).matches? record = .ok true ∧
        clause (some filter) = .ok c ∧ tokensOf? c.text.toList = some ts ∧
        (∃ e, IsCondition (bound ts c.parameters) e) ∧
        ∀ e, IsCondition (bound ts c.parameters) e →
          ∀ like, e.truth (Test.truth like record) = .unknown := by
  intro fields filter record
  have reads : IsCondition [.name "age", .sign .unequal, .operand (some (.ofNat 30))]
      (.test ⟨"age", .comparison .unequal, [some (.ofNat 30)]⟩) :=
    .single (k := .or) (.single (k := .and) (.test (.comparison "age" .unequal _)))
  refine ⟨rfl, by decide, ⟨[("age", .object [("$ne", .ofNat 30)])]⟩, ⟨"age <> ?", [.ofNat 30]⟩,
    [.name "age", .sign .unequal, .operand none], rfl, ?_, rfl, rfl, ⟨_, reads⟩, ?_⟩
  · rfl
  · intro e he like
    rw [he.unique reads]
    rfl

end Filter

end SchemaFilter
