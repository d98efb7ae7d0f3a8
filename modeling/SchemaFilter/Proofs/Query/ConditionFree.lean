import SchemaFilter.Filter.Decode
import SchemaFilter.Proofs.Query.SameSelection
import SchemaFilter.Report.Filter

/-!
# Filters without conditions

A filter without conditions does not look at records. It is valid under every schema, and document
and clause answer alike and always the same. What they answer is a matter of its shape: a list of
disjuncts needs a member that excludes nothing, and the empty list has none. So not every such
filter selects everything, although the report on it says so.
-/

namespace SchemaFilter

open Sql

namespace Filter

/-- Whether the shape of a filter alone makes it hold. All conjuncts have to hold by their shape and,
if there is a list of disjuncts, one of its members. -/
inductive Unrestricted : Filter → Prop where
  | conjuncts {conjuncts : Option (List Filter)}
    (all : ∀ f ∈ children conjuncts, Unrestricted f) : Unrestricted (.group conjuncts none)
  | disjunct {conjuncts : Option (List Filter)} {disjuncts : List Filter} {f : Filter}
    (all : ∀ f ∈ children conjuncts, Unrestricted f) (hf : f ∈ disjuncts)
    (alternative : Unrestricted f) : Unrestricted (.group conjuncts (some disjuncts))

/-- Whether no list of disjuncts in a filter is empty. -/
inductive HasAlternatives : Filter → Prop where
  | condition (c : Condition) : HasAlternatives (.condition c)
  | group {conjuncts disjuncts : Option (List Filter)}
    (first : ∀ f ∈ children conjuncts, HasAlternatives f)
    (second : ∀ f ∈ children disjuncts, HasAlternatives f) (nonempty : disjuncts ≠ some []) :
    HasAlternatives (.group conjuncts disjuncts)

/-- A group is without conditions if all of its children are. -/
theorem leaves_group_eq_nil_iff {conjuncts disjuncts : Option (List Filter)} :
    (group conjuncts disjuncts).leaves = [] ↔
      (∀ f ∈ children conjuncts, f.leaves = []) ∧ ∀ f ∈ children disjuncts, f.leaves = [] := by
  rw [leaves_group, List.append_eq_nil_iff, List.flatMap_eq_nil_iff, List.flatMap_eq_nil_iff]

/-- A filter without conditions holds by its shape if there is something in every list of
disjuncts. -/
theorem HasAlternatives.unrestricted {f : Filter} (h : f.HasAlternatives) (free : f.leaves = []) :
    f.Unrestricted := by
  induction h with
  | condition c => simp at free
  | @group conjuncts disjuncts first second nonempty ih ih' =>
    rw [leaves_group_eq_nil_iff] at free
    have all : ∀ f ∈ children conjuncts, f.Unrestricted := fun f hf => ih f hf (free.1 f hf)
    match disjuncts with
    | none => exact .conjuncts all
    | some [] => exact absurd rfl nonempty
    | some (f :: rest) =>
      have hf : f ∈ f :: rest := List.mem_cons_self
      exact .disjunct all hf (ih' f hf (free.2 f hf))

theorem branchHolds_conjuncts_iff {record : Value} {branch : Option (List Filter)} :
    branchHolds record true branch = true ↔ ∀ f ∈ children branch, f.holds record = true := by
  cases branch with
  | none => simp [branchHolds]
  | some list => simp [branchHolds]

/-- A filter without conditions holds of a record exactly if its shape makes it hold. -/
theorem holds_iff_unrestricted {f : Filter} (free : f.leaves = []) (record : Value) :
    f.holds record = true ↔ f.Unrestricted := by
  induction f with
  | condition c => simp at free
  | group conjuncts disjuncts first second =>
    rw [leaves_group_eq_nil_iff] at free
    have all : (∀ f ∈ children conjuncts, f.holds record = true) ↔
        ∀ f ∈ children conjuncts, f.Unrestricted :=
      forall₂_congr fun f hf => first f hf (free.1 f hf)
    rw [holds, Bool.and_eq_true, branchHolds_conjuncts_iff, all]
    cases disjuncts with
    | none =>
      constructor
      · rintro ⟨all, -⟩
        exact .conjuncts all
      · rintro ⟨all⟩
        exact ⟨all, rfl⟩
    | some list =>
      simp only [branchHolds, Bool.false_eq_true, if_false, someHolds_iff]
      constructor
      · rintro ⟨all, f, hf, holding⟩
        exact .disjunct all hf ((second f hf (free.2 f hf)).1 holding)
      · rintro (_ | ⟨all, hf, alternative⟩)
        exact ⟨all, _, hf, (second _ hf (free.2 _ hf)).2 alternative⟩

variable {f : Filter}

theorem leaves_eq_nil_iff : f.leaves = [] ↔ f.conditionCount = 0 := by
  rw [← length_leaves, List.length_eq_zero_iff]

/-- The clause of a filter without conditions has no parameters. It reads as a search condition that
is true of a row, or false, as the filter holds or does not. -/
theorem exists_clause_of_leaves_eq_nil (free : f.leaves = []) :
    ∃ c e, clause (some f) = .ok c ∧ c.parameters = [] ∧ ReadsText c.text e ∧
      ∀ (like : Value → Value → Bool) (row record : Value),
        e.truth (Test.truth like row) = .ofBool (f.holds record) := by
  have accepted : ∀ leaf ∈ f.leaves, leaf.refusal? = none := by simp [free]
  have untested : (f.expression 0).tests = [] := by
    rw [tests_expression, free]
    rfl
  have reads := (isReadable accepted 0).readsText (by simp [untested])
  refine ⟨_, _, clause_eq_ok_iff.2 ⟨accepted, rfl⟩, ?_, reads, ?_⟩
  · rw [allLeaves, free]
    rfl
  · intro like row record
    have unmapped : ((f.expression 0).map (numberedTest blank)).tests = [] := by
      rw [Expression.tests_map, untested, List.map_nil]
    rw [Expression.truth_of_tests_eq_nil _ (fun _ => false) unmapped, Expression.holds_map,
      holds_expression, holdsGiven_eq_holds (by simp [free])]

/-- A filter without conditions, or no filter, is valid under every schema. It compiles to a document
that answers alike for all records, and to a clause without parameters that reads as one search
condition, which is true of every row or false of every row as the document answers. The answer is
that everything is selected exactly if the shape of the filter makes it hold, and so it is if no list
of disjuncts in the filter is empty. -/
theorem condition_free_selects_all_or_nothing (s : Schema) (filter : Option Filter)
    (free : (filter.map conditionCount).getD 0 = 0) :
    s.faults filter = [] ∧ ∃ d c e selected, document filter = .ok d ∧ clause filter = .ok c ∧
      c.parameters = [] ∧ ReadsText c.text e ∧ (∀ other, ReadsText c.text other → other = e) ∧
      (selected = true ↔ ∀ f, filter = some f → f.Unrestricted) ∧
      ((∀ f, filter = some f → f.HasAlternatives) → selected = true) ∧
      (∀ record, (Evaluator.of d).matches? record = .ok selected) ∧
      ∀ (like : Value → Value → Bool) (row : Value),
        e.truth (Test.truth like row) = .ofBool selected := by
  -- no filter compiles to what a group without branches compiles to
  obtain ⟨f, shape, alternatives, count, faults, compiled, written⟩ : ∃ f : Filter,
      (f.Unrestricted ↔ ∀ g, filter = some g → g.Unrestricted) ∧
      ((∀ g, filter = some g → g.HasAlternatives) → f.HasAlternatives) ∧ f.conditionCount = 0 ∧
      s.faults filter = s.faults (some f) ∧ document filter = document (some f) ∧
      clause filter = clause (some f) := by
    cases filter with
    | none =>
      exact ⟨.group none none, by simpa using .conjuncts (by simp),
        fun _ => .group (by simp) (by simp) (by simp), rfl, rfl, rfl, rfl⟩
    | some f => exact ⟨f, by simp, by simp, free, rfl, rfl, rfl⟩
  have noLeaves := leaves_eq_nil_iff.2 count
  have valid : s.faults (some f) = [] := Schema.faults_eq_nil_iff.2 (by simp [noLeaves])
  obtain ⟨members, hmembers, hold⟩ : f.Faithful Pattern.ofText :=
    faithful_of_leaves (by simp [noLeaves])
  obtain ⟨c, e, hc, parameters, reads, known⟩ := exists_clause_of_leaves_eq_nil noLeaves
  have alike (record : Value) : f.holds record = f.holds .null := by
    rw [Bool.eq_iff_iff, holds_iff_unrestricted noLeaves, holds_iff_unrestricted noLeaves]
  refine ⟨faults.trans valid, ⟨members⟩, c, e, f.holds .null,
    compiled.trans (document_some_eq_ok_iff.2 ⟨members, hmembers, rfl⟩), written.trans hc,
    parameters, reads, fun other h => h.unique reads, ?_, fun h => ?_, fun record => ?_,
    fun like row => ?_⟩
  · rw [holds_iff_unrestricted noLeaves, shape]
  · exact (holds_iff_unrestricted noLeaves _).2 ((alternatives h).unrestricted noLeaves)
  · rw [Evaluator.matches?_of, ← alike record]
    exact hold record
  · exact known like row .null

/-- An empty list of disjuncts does no harm beside one that holds. -/
theorem nested_alternatives_select_all :
    let filter : Filter := .group (some [.all [], .any [.any [], .group none none]]) none
    ((some filter).map conditionCount).getD 0 = 0 ∧
      ∃ d c e, document (some filter) = .ok d ∧ clause (some filter) = .ok c ∧
        ReadsText c.text e ∧ (∀ record, (Evaluator.of d).matches? record = .ok true) ∧
        ∀ (like : Value → Value → Bool) (row : Value), e.truth (Test.truth like row) = .yes := by
  intro filter
  have free : ((some filter).map conditionCount).getD 0 = 0 := rfl
  have bare : (Filter.group none none).Unrestricted := .conjuncts (by simp)
  have shape : filter.Unrestricted := by
    refine .conjuncts (List.forall_mem_cons.2 ⟨?_, List.forall_mem_singleton.2 ?_⟩)
    · exact .conjuncts (by simp)
    · exact .disjunct (by simp) (List.mem_cons_of_mem _ (List.mem_singleton_self _)) bare
  obtain ⟨-, d, c, e, selected, compiled, written, -, reads, -, exactly, -, matched, known⟩ :=
    condition_free_selects_all_or_nothing default (some filter) free
  cases exactly.2 (by rintro _ ⟨⟩; exact shape)
  exact ⟨free, d, c, e, compiled, written, reads, matched, known⟩

/-- The report on a filter that is an empty list of disjuncts says that it matches everything. The
document of the filter selects no record, and the clause is false of every row. -/
theorem empty_disjunction_selects_nothing :
    let fields : List Field := [{ name := "age", type := .number }]
    let filter : Filter := .any []
    Schema.ofFields fields = .ok ⟨none, fields⟩ ∧
      Schema.validateValue ⟨none, fields⟩
        (.object [("kind", .string "group"), ("or", .array [])]) = .ok (some filter) ∧
      Report.validText false filter.conditionCount = "Filter is valid (matches everything)\n" ∧
      (∃ d, document (some filter) = .ok d ∧
        ∀ record, (Evaluator.of d).matches? record = .ok false) ∧
      ∃ c, clause (some filter) = .ok c ∧ (∃ e, ReadsText c.text e) ∧
        ∀ e, ReadsText c.text e → ∀ (like : Value → Value → Bool) (row : Value),
          e.truth (Test.truth like row) = .no := by
  intro fields filter
  have phrase : Phrase numberedTest .primary Clause.never [] (.constant false) := .empty .or
  have reads : ReadsText Clause.never (.constant false) :=
    phrase.readsText (by simp [Expression.tests])
  refine ⟨rfl, rfl, rfl, ⟨⟨[("$or", .array [])]⟩, rfl, fun record => rfl⟩,
    ⟨Clause.never, []⟩, rfl, ⟨_, reads⟩, ?_⟩
  intro e he like row
  rw [he.unique reads]
  rfl

end Filter

end SchemaFilter
