import SchemaFilter.Proofs.Filter.TreeOrder
import SchemaFilter.Proofs.Query.DocumentMeaning
import SchemaFilter.Proofs.Query.Rendering

/-!
# Refusals

A filter that was not checked may hold a condition whose operand contradicts its operator. Such a
filter compiles neither to a document nor to a clause, and both compilers report the same error: that
of the first such condition in tree order. Nothing else keeps a filter from being compiled.
-/

namespace SchemaFilter

/-! ## Conditions -/

/-- Whether an operator goes with one value. -/
def Operator.TakesOne (op : Operator) : Prop :=
  op.takesValue = true ∧ op ≠ isIn ∧ op ≠ between

namespace Condition

/-- Whether the operand of a condition contradicts its operator, and what the operator expects. -/
inductive Contradicts (c : Condition) : Expectation → Prop where
  | noValue (one : c.operator.TakesOne) (missing : c.operand = none) : Contradicts c .value
  | noList (several : c.operator = .isIn ∨ c.operator = .between)
      (other : ∀ items, c.operand ≠ some (.array items)) : Contradicts c .list
  | noPair {items : List Value} (range : c.operator = .between)
      (hitems : c.operand = some (.array items)) (count : items.length ≠ 2) : Contradicts c .pair
  | noScalar {v : Value} (text : c.operator = .contains ∨ c.operator = .startsWith ∨
      c.operator = .endsWith) (hv : c.operand = some v)
      (other : v = .null ∨ (∃ items, v = .array items) ∨ ∃ members, v = .object members) :
      Contradicts c .scalar

theorem scalarText?_eq_none_iff {v : Value} : v.scalarText? = none ↔
    v = .null ∨ (∃ items, v = .array items) ∨ ∃ members, v = .object members := by
  cases v <;> simp [Value.scalarText?]

variable {c : Condition} {e : QueryError}

/-- An operand that contradicts the operator is refused. -/
theorem Contradicts.refusal?_eq {what : Expectation} (h : c.Contradicts what) :
    c.refusal? = some (c.expected what) := by
  obtain ⟨field, op, operand⟩ := c
  cases h with
  | noValue one missing =>
    cases missing
    cases op with
    | isNull | isNotNull => cases one.1
    | isIn => exact absurd rfl one.2.1
    | between => exact absurd rfl one.2.2
    | _ => rfl
  | noList several other =>
    cases operand with
    | none => rcases several with rfl | rfl <;> rfl
    | some v =>
      cases v with
      | array items => exact absurd rfl (other items)
      | _ => rcases several with rfl | rfl <;> rfl
  | @noPair items range hitems count =>
    cases range
    cases hitems
    match items with
    | [_, _] => exact absurd rfl count
    | [] | [_] | _ :: _ :: _ :: _ => rfl
  | noScalar text hv other =>
    cases hv
    rw [← scalarText?_eq_none_iff] at other
    rcases text with rfl | rfl | rfl <;> simp [refusal?, other]

/-- Nothing else is refused. -/
theorem exists_contradicts_of_refusal? (h : c.refusal? = some e) :
    ∃ what, c.Contradicts what ∧ e = c.expected what := by
  obtain ⟨field, op, operand⟩ := c
  cases op with
  | eq | neq | gt | lt | gte | lte =>
    cases operand with
    | none =>
      cases h
      exact ⟨.value, .noValue ⟨rfl, by simp, by simp⟩ rfl, rfl⟩
    | some v => cases h
  | isIn =>
    match operand with
    | some (.array items) => cases h
    | none | some .null | some (.bool _) | some (.number _) | some (.string _)
    | some (.object _) =>
      cases h
      exact ⟨.list, .noList (.inl rfl) (by simp), rfl⟩
  | between =>
    match operand with
    | some (.array [_, _]) => cases h
    | some (.array []) | some (.array [_]) | some (.array (_ :: _ :: _ :: _)) =>
      cases h
      exact ⟨.pair, .noPair rfl rfl (by simp), rfl⟩
    | none | some .null | some (.bool _) | some (.number _) | some (.string _)
    | some (.object _) =>
      cases h
      exact ⟨.list, .noList (.inr rfl) (by simp), rfl⟩
  | contains | startsWith | endsWith =>
    cases operand with
    | none =>
      cases h
      exact ⟨.value, .noValue ⟨rfl, by simp, by simp⟩ rfl, rfl⟩
    | some v =>
      cases scalar : v.scalarText? with
      | some text => simp [refusal?, scalar] at h
      | none =>
        simp only [refusal?, scalar, Option.isSome_none, Bool.false_eq_true, if_false,
          Option.some.injEq] at h
        exact ⟨.scalar, .noScalar (by simp) rfl (scalarText?_eq_none_iff.1 scalar), h.symm⟩
  | isNull | isNotNull => cases h

theorem refusal?_eq_none_iff : c.refusal? = none ↔ ∀ what, ¬c.Contradicts what := by
  constructor
  · intro none what h
    cases none.symm.trans h.refusal?_eq
  · intro sound
    cases h : c.refusal? with
    | none => rfl
    | some e =>
      obtain ⟨what, contradicts, -⟩ := exists_contradicts_of_refusal? h
      exact absurd contradicts (sound what)

/-- Compiling a condition to a demand fails as it does for clauses. -/
theorem failure?_demand (c : Condition) : Outcome.failure? c.demand = c.refusal? := by
  obtain ⟨field, op, operand⟩ := c
  cases op with
  | eq | neq | gt | lt | gte | lte => cases operand <;> rfl
  | isIn =>
    cases operand with
    | none => rfl
    | some v => cases v <;> rfl
  | between =>
    match operand with
    | some (.array [low, high]) => rfl
    | some (.array []) | some (.array [_]) | some (.array (_ :: _ :: _ :: _)) => rfl
    | none | some .null | some (.bool _) | some (.number _) | some (.string _)
    | some (.object _) => rfl
  | contains | startsWith | endsWith =>
    cases operand with
    | none => rfl
    | some v => cases v <;> rfl
  | isNull | isNotNull => rfl

end Condition

/-! ## Trees -/

namespace Filter

open Outcome (failure? failure?_bind failure?_bind_pure)

theorem failure?_documentList {list : List Filter}
    (h : ∀ f ∈ list, failure? f.documentMembers = refusal? f.leaves) :
    failure? (documentList list) = refusal? (list.flatMap leaves) := by
  induction list with
  | nil => rfl
  | cons f rest ih =>
    rw [List.forall_mem_cons] at h
    rw [documentList, List.flatMap_cons, refusal?_append, ← h.1, ← ih h.2]
    exact failure?_bind fun members => failure?_bind_pure _ _

theorem failure?_documentBranch (key : String) {branch : Option (List Filter)}
    (h : ∀ f ∈ children branch, failure? f.documentMembers = refusal? f.leaves) :
    failure? (documentBranch key branch) = refusal? ((children branch).flatMap leaves) := by
  cases branch with
  | none => rfl
  | some list =>
    rw [documentBranch, failure?_bind_pure]
    exact failure?_documentList h

/-- Compiling a filter to a document goes through its leaves and fails at the first that is
refused. -/
theorem failure?_documentMembers (f : Filter) :
    failure? f.documentMembers = refusal? f.leaves := by
  induction f with
  | condition c =>
    rw [documentMembers, failure?_bind_pure, c.failure?_demand, leaves_condition]
    cases h : c.refusal? <;> simp [refusal?, h]
  | group conjuncts disjuncts first second =>
    rw [documentMembers, leaves_group, refusal?_append, ← failure?_documentBranch "$and" first,
      ← failure?_documentBranch "$or" second]
    exact failure?_bind fun members => failure?_bind_pure _ _

theorem failure?_document (filter : Option Filter) :
    failure? (document filter) = refusal? (allLeaves filter) := by
  cases filter with
  | none => rfl
  | some f =>
    rw [document, failure?_bind_pure, f.failure?_documentMembers, allLeaves]

theorem failure?_clause (filter : Option Filter) :
    failure? (clause filter) = refusal? (allLeaves filter) := by
  rw [clause_eq]
  cases refusal? (allLeaves filter) <;> rfl

/-- A filter compiles to a document and to a clause if no operand contradicts its operator.
Otherwise it compiles to neither, and both fail with the same error: that of the first condition in
tree order whose operand contradicts its operator. -/
theorem compile_or_refuse (filter : Option Filter) :
    ((∃ d, document filter = .ok d) ∧ (∃ c, clause filter = .ok c) ∧
      ∀ f, filter = some f → ∀ c place, f.Occurs c place → ∀ what, ¬c.Contradicts what) ∨
    ∃ f c place what, filter = some f ∧ f.Occurs c place ∧ c.Contradicts what ∧
      (∀ d other, f.Occurs d other → other.Before place → ∀ what', ¬d.Contradicts what') ∧
      document filter = .error (.invalidOperand c.field c.operator what) ∧
      clause filter = .error (.invalidOperand c.field c.operator what) := by
  have failed := failure?_document filter
  have failed' := failure?_clause filter
  cases refused : refusal? (allLeaves filter) with
  | none =>
    left
    rw [refused] at failed failed'
    refine ⟨Outcome.failure?_eq_none_iff.1 failed, Outcome.failure?_eq_none_iff.1 failed', ?_⟩
    rintro f rfl c place occurs
    rw [refusal?, List.findSome?_eq_none_iff] at refused
    exact Condition.refusal?_eq_none_iff.1 (refused c (mem_leaves_iff.2 ⟨place, occurs⟩))
  | some e =>
    right
    rw [refused] at failed failed'
    cases filter with
    | none => cases refused
    | some f =>
      obtain ⟨c, place, occurs, refuses, earlier⟩ := occurs_of_findSome?_leaves refused
      obtain ⟨what, contradicts, rfl⟩ := Condition.exists_contradicts_of_refusal? refuses
      exact ⟨f, c, place, what, rfl, occurs, contradicts,
        fun d other hd before => Condition.refusal?_eq_none_iff.1 (earlier d other hd before),
        Outcome.failure?_eq_some_iff.1 failed, Outcome.failure?_eq_some_iff.1 failed'⟩

example :
    let first : Filter := .condition ⟨"age", .between, some (.array [.ofNat 1])⟩
    let second : Filter := .condition ⟨"tags", .isIn, some .null⟩
    let filter : Filter := .group (some [.group none (some [first])]) (some [second])
    document (some filter) = .error (.invalidOperand "age" .between .pair) ∧
      clause (some filter) = .error (.invalidOperand "age" .between .pair) :=
  ⟨rfl, rfl⟩

end Filter

end SchemaFilter
