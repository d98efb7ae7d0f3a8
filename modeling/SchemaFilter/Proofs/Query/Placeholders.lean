import SchemaFilter.Proofs.Filter.Accepted
import SchemaFilter.Proofs.Query.Template

/-!
# Placeholders

The question marks of a clause are to be the places of its parameters. They are, in number and in
order, as long as no field has a question mark in its name: names get into the text as they are, and
a name of a checked schema may have one. A filter that a schema accepts always compiles, but the
marks in the names of its fields come on top of its parameters.
-/

namespace SchemaFilter

namespace Condition

theorem refusal?_of_allows {s : Schema} {c : Condition} (h : s.Allows c) : c.refusal? = none := by
  obtain ⟨field, op, operand⟩ := c
  obtain ⟨f, -, -, -, fits⟩ := h
  cases op with
  | isNull | isNotNull => rfl
  | isIn =>
    obtain ⟨items, rfl, -⟩ := fits
    rfl
  | between =>
    obtain ⟨low, high, rfl, -, -⟩ := fits
    rfl
  | contains | startsWith | endsWith =>
    obtain ⟨v, rfl, admitted⟩ := fits
    obtain ⟨text, scalar⟩ := admitted.scalarText?_isSome
    simp [refusal?, scalar]
  | _ =>
    obtain ⟨v, rfl, -⟩ := fits
    rfl

end Condition

namespace Filter

/-- Apart from those for parameters a clause has the question marks of field names. -/
theorem placeholderCount_eq {filter : Option Filter} {c : Clause}
    (compiled : clause filter = .ok c) :
    c.placeholderCount = c.parameters.length +
      ((writtenNames (allLeaves filter)).flatMap String.toList).count '?' := by
  have template : Template Clause.mark _ _ _ _ := template_of_clause compiled
  exact template.count_eq

theorem count_flatMap_toList_eq_zero_iff {names : List String} :
    (names.flatMap String.toList).count '?' = 0 ↔ ∀ name ∈ names, '?' ∉ name.toList := by
  simp [List.count_eq_zero, List.mem_flatMap]

theorem mem_fields_of_mem_writtenNames {conditions : List Condition} {name : String}
    (h : name ∈ writtenNames conditions) : ∃ c ∈ conditions, c.field = name := by
  obtain ⟨c, hc, hname⟩ := List.mem_flatMap.1 h
  refine ⟨c, hc, ?_⟩
  unfold Condition.writtenNames at hname
  split at hname
  · cases hname
  · exact (List.mem_singleton.1 hname).symm

/-- If no field name has a question mark, a clause has one for each of its parameters, and with the
parameters filled in from left to right it is the rendering of the filter with every operand in its
place, however values are written. -/
theorem filled_eq_rendering {filter : Option Filter} {c : Clause}
    (compiled : clause filter = .ok c)
    (plain : ∀ leaf ∈ allLeaves filter, '?' ∉ leaf.field.toList) :
    c.placeholderCount = c.parameters.length ∧
      ∀ write : Value → String, c.filled write = rendering write filter := by
  have clean : ∀ name ∈ writtenNames (allLeaves filter), '?' ∉ name.toList := by
    intro name hname
    obtain ⟨leaf, hleaf, rfl⟩ := mem_fields_of_mem_writtenNames hname
    exact plain leaf hleaf
  constructor
  · rw [placeholderCount_eq compiled, count_flatMap_toList_eq_zero_iff.2 clean, Nat.add_zero]
  · intro write
    have template : Template write _ _ _ _ := template_of_clause compiled
    rw [Clause.filled, template.fill_eq clean, String.ofList_toList]

/-- Conjuncts come before disjuncts, a range has two parameters and a list as many as it has
elements. -/
theorem filled_eq_rendering_of_users :
    let filter : Filter := .group
      (some [.condition ⟨"age", .between, some (.array [.ofNat 18, .ofNat 30])⟩,
        .condition ⟨"role", .isIn, some (.array [.string "admin", .string "editor"])⟩])
      (some [.condition ⟨"name", .contains, some (.string "li")⟩,
        .condition ⟨"lastLogin", .isNull, none⟩])
    let quoted : Value → String := fun v => "'" ++ v.scalarText?.getD "" ++ "'"
    (∀ leaf ∈ allLeaves (some filter), '?' ∉ leaf.field.toList) ∧
      ∃ c, clause (some filter) = .ok c ∧ c.placeholderCount = c.parameters.length ∧
        c.filled quoted = "((age BETWEEN '18' AND '30' AND role IN ('admin', 'editor')) AND " ++
          "(name LIKE '%li%' OR lastLogin IS NULL))" := by
  intro filter quoted
  have plain : ∀ leaf ∈ allLeaves (some filter), '?' ∉ leaf.field.toList := by decide
  have compiled : clause (some filter) = .ok ⟨rendering Clause.mark (some filter),
      operands (allLeaves (some filter))⟩ := rfl
  obtain ⟨count, filled⟩ := filled_eq_rendering compiled plain
  exact ⟨plain, _, compiled, count, (filled quoted).trans rfl⟩

/-- A filter that a schema accepts compiles to a clause. -/
theorem exists_clause_of_valid {s : Schema} {filter : Option Filter}
    (valid : s.faults filter = []) : ∃ c, clause filter = .ok c := by
  have fit : ∀ leaf ∈ allLeaves filter, leaf.refusal? = none := by
    cases filter with
    | none => simp [allLeaves]
    | some f =>
      intro leaf hleaf
      exact Condition.refusal?_of_allows (Schema.faults_eq_nil_iff.1 valid leaf hleaf)
  exact ⟨_, clause_eq_ok_iff.2 ⟨fit, rfl⟩⟩

/-- A filter that a schema accepts compiles. Its clause has as many question marks as parameters
exactly if none is in the name of a field that is written. -/
theorem placeholderCount_eq_length_iff {s : Schema} {filter : Option Filter}
    (valid : s.faults filter = []) :
    ∃ c, clause filter = .ok c ∧
      c.placeholderCount = c.parameters.length +
        ((writtenNames (allLeaves filter)).flatMap String.toList).count '?' ∧
      (c.placeholderCount = c.parameters.length ↔
        ∀ name ∈ writtenNames (allLeaves filter), '?' ∉ name.toList) := by
  obtain ⟨c, compiled⟩ := exists_clause_of_valid valid
  have count := placeholderCount_eq compiled
  refine ⟨c, compiled, count, ?_⟩
  -- the marks of names come on top, so the numbers agree only if there are none
  rw [← count_flatMap_toList_eq_zero_iff, count]
  omega

/-- Membership in the empty list does not write the name of its field. -/
theorem placeholderCount_eq_length_of_empty_membership :
    let fields : List Field :=
      [{ name := "age", type := .number }, { name := "a?", type := .number }]
    let filter : Filter := .any [.condition ⟨"age", .gte, some (.ofNat 18)⟩,
      .condition ⟨"a?", .isIn, some (.array [])⟩]
    Schema.faults ⟨none, fields⟩ (some filter) = [] ∧
      ∃ c, clause (some filter) = .ok c ∧ c.placeholderCount = c.parameters.length := by
  intro fields filter
  have valid : Schema.faults ⟨none, fields⟩ (some filter) = [] := by decide
  have plain : ∀ name ∈ writtenNames (allLeaves (some filter)), '?' ∉ name.toList := by decide
  obtain ⟨c, compiled, -, exactly⟩ := placeholderCount_eq_length_iff valid
  exact ⟨valid, c, compiled, exactly.2 plain⟩

/-- A checked schema may have a field whose name ends in a question mark, and comparing it with one
value makes a clause with two question marks. -/
theorem placeholderCount_ne_length_of_marked_field :
    let fields : List Field := [{ name := "a?", type := .number }]
    let filter : Filter := .condition ⟨"a?", .eq, some (.ofNat 1)⟩
    Schema.ofFields fields = .ok ⟨none, fields⟩ ∧
      Schema.faults ⟨none, fields⟩ (some filter) = [] ∧
        ∃ c, clause (some filter) = .ok c ∧ c.text = "a? = ?" ∧ c.placeholderCount = 2 ∧
          c.parameters.length = 1 := by
  intro fields filter
  exact ⟨rfl, by decide, ⟨"a? = ?", [.ofNat 1]⟩, rfl, rfl, by decide, rfl⟩

end Filter

end SchemaFilter
