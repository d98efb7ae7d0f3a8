import SchemaFilter.Proofs.Query.Rendering

/-!
# Skeletons

The skeleton of a filter is what is left of it when the values that it compares with are taken away:
the nesting, the field and the operator of every condition, and of a list of values its length. The
text of a clause is a matter of the skeleton alone. Whatever a value holds, quotation marks, question
marks or SQL, it can only ever be a parameter.
-/

namespace SchemaFilter

/-- A filter without the values that it compares with. -/
inductive Skeleton where
  /-- A condition, with the number of values if it asks for one of a list. -/
  | condition (field : String) (operator : Operator) (listLength : Option Nat)
  | group (conjuncts disjuncts : Option (List Skeleton))

namespace Condition

/-- The number of values that a condition lists, if its operator takes a list. -/
def listLength (c : Condition) : Option Nat :=
  match c.operator with
  | .isIn => (c.operand.bind Value.items?).map List.length
  | _ => none

theorem map_mark_eq {values values' : List Value} (h : values.length = values'.length) :
    values.map Clause.mark = values'.map Clause.mark := by
  have marks (list : List Value) : list.map Clause.mark = List.replicate list.length "?" :=
    List.map_const'
  rw [marks, marks, h]

/-- Conditions on one field with one operator that list equally many values are written alike. -/
theorem rendered_mark_eq {c d : Condition} (field : c.field = d.field)
    (operator : c.operator = d.operator) (listed : c.listLength = d.listLength)
    (fits : c.refusal? = none) (fits' : d.refusal? = none) :
    c.rendered Clause.mark = d.rendered Clause.mark ∧
      c.operands.length = d.operands.length := by
  obtain ⟨name, op, operand⟩ := c
  obtain ⟨_, _, operand'⟩ := d
  cases field
  cases operator
  cases op with
  | isNull | isNotNull => exact ⟨rfl, rfl⟩
  | eq | neq | gt | lt | gte | lte | contains | startsWith | endsWith =>
    cases operand with
    | none => cases fits
    | some v =>
      cases operand' with
      | none => cases fits'
      | some w => exact ⟨rfl, rfl⟩
  | between =>
    obtain ⟨low, high, rfl⟩ := exists_bounds_of_between fits
    obtain ⟨low', high', rfl⟩ := exists_bounds_of_between fits'
    exact ⟨rfl, rfl⟩
  | isIn =>
    obtain ⟨items, rfl⟩ := exists_items_of_isIn fits
    obtain ⟨items', rfl⟩ := exists_items_of_isIn fits'
    have same : items.length = items'.length := Option.some.inj listed
    refine ⟨?_, same⟩
    cases items with
    | nil =>
      cases items' with
      | nil => rfl
      | cons w rest => cases same
    | cons v rest =>
      cases items' with
      | nil => cases same
      | cons w rest' => simp only [rendered, map_mark_eq same]

end Condition

namespace Filter

mutual

def skeleton : Filter → Skeleton
  | condition c => .condition c.field c.operator c.listLength
  | group conjuncts disjuncts => .group (branchSkeletons conjuncts) (branchSkeletons disjuncts)

def branchSkeletons : Option (List Filter) → Option (List Skeleton)
  | none => none
  | some children => some (skeletons children)

def skeletons : List Filter → List Skeleton
  | [] => []
  | child :: rest => skeleton child :: skeletons rest

end

/-- Whether a filter has the same text, and as many operands, as any other filter of its skeleton. -/
def IsDetermined (f : Filter) : Prop :=
  (∀ c ∈ f.leaves, c.refusal? = none) → ∀ g : Filter, (∀ c ∈ g.leaves, c.refusal? = none) →
    f.skeleton = g.skeleton → f.rendered Clause.mark = g.rendered Clause.mark ∧
      (operands f.leaves).length = (operands g.leaves).length

theorem rendered_eq_of_skeletons_eq {list list' : List Filter}
    (determined : ∀ f ∈ list, f.IsDetermined)
    (fits : ∀ f ∈ list, ∀ c ∈ f.leaves, c.refusal? = none)
    (fits' : ∀ f ∈ list', ∀ c ∈ f.leaves, c.refusal? = none)
    (same : skeletons list = skeletons list') :
    list.map (rendered Clause.mark) = list'.map (rendered Clause.mark) ∧
      (operands (list.flatMap leaves)).length = (operands (list'.flatMap leaves)).length := by
  induction list generalizing list' with
  | nil =>
    cases list' with
    | nil => exact ⟨rfl, rfl⟩
    | cons g rest' => simp [skeletons] at same
  | cons f rest ih =>
    cases list' with
    | nil => simp [skeletons] at same
    | cons g rest' =>
      simp only [skeletons, List.cons.injEq] at same
      rw [List.forall_mem_cons] at determined fits fits'
      obtain ⟨text, count⟩ := determined.1 fits.1 g fits'.1 same.1
      obtain ⟨texts, counts⟩ := ih determined.2 fits.2 fits'.2 same.2
      refine ⟨by rw [List.map_cons, List.map_cons, text, texts], ?_⟩
      rw [List.flatMap_cons, List.flatMap_cons, operands_append, operands_append,
        List.length_append, List.length_append, count, counts]

theorem renderedBranch_eq_of_skeletons_eq (word empty : String)
    {branch branch' : Option (List Filter)} (determined : ∀ f ∈ children branch, f.IsDetermined)
    (fits : ∀ f ∈ children branch, ∀ c ∈ f.leaves, c.refusal? = none)
    (fits' : ∀ f ∈ children branch', ∀ c ∈ f.leaves, c.refusal? = none)
    (same : branchSkeletons branch = branchSkeletons branch') :
    renderedBranch Clause.mark word empty branch = renderedBranch Clause.mark word empty branch' ∧
      (operands ((children branch).flatMap leaves)).length =
        (operands ((children branch').flatMap leaves)).length := by
  cases branch with
  | none =>
    cases branch' with
    | none => exact ⟨rfl, rfl⟩
    | some list' => simp [branchSkeletons] at same
  | some list =>
    cases branch' with
    | none => simp [branchSkeletons] at same
    | some list' =>
      simp only [branchSkeletons, Option.some.injEq] at same
      rw [children_some] at determined fits fits' ⊢
      obtain ⟨texts, counts⟩ := rendered_eq_of_skeletons_eq determined fits fits' same
      refine ⟨?_, counts⟩
      rw [renderedBranch_eq, renderedBranch_eq, Option.map_some, Option.map_some, texts]

/-- The text of a filter is determined by its skeleton. -/
theorem isDetermined (f : Filter) : f.IsDetermined := by
  induction f with
  | condition c =>
    intro fits g fits' same
    cases g with
    | condition d =>
      simp only [skeleton, Skeleton.condition.injEq] at same
      obtain ⟨field, operator, listed⟩ := same
      have alike := Condition.rendered_mark_eq field operator listed (fits c (by simp))
        (fits' d (by simp))
      simpa [rendered, operands] using alike
    | group conjuncts' disjuncts' => simp [skeleton] at same
  | group conjuncts disjuncts first second =>
    intro fits g fits' same
    cases g with
    | condition d => simp [skeleton] at same
    | group conjuncts' disjuncts' =>
      simp only [skeleton, Skeleton.group.injEq] at same
      rw [forall_leaves_group] at fits fits'
      obtain ⟨text, count⟩ :=
        renderedBranch_eq_of_skeletons_eq " AND " "1=1" first fits.1 fits'.1 same.1
      obtain ⟨text', count'⟩ :=
        renderedBranch_eq_of_skeletons_eq " OR " "1=0" second fits.2 fits'.2 same.2
      refine ⟨by rw [rendered, rendered, text, text'], ?_⟩
      rw [leaves_group, leaves_group, operands_append, operands_append, List.length_append,
        List.length_append, count, count']

/-- The text of a clause and the number of its parameters depend on the skeleton of the filter
alone, whatever values the filter compares with. -/
theorem clause_text_eq_of_skeleton_eq {filter filter' : Option Filter} {c c' : Clause}
    (compiled : clause filter = .ok c) (compiled' : clause filter' = .ok c')
    (same : filter.map skeleton = filter'.map skeleton) :
    c.text = c'.text ∧ c.parameters.length = c'.parameters.length := by
  obtain ⟨fits, rfl⟩ := clause_eq_ok_iff.1 compiled
  obtain ⟨fits', rfl⟩ := clause_eq_ok_iff.1 compiled'
  cases filter with
  | none =>
    cases filter' with
    | none => exact ⟨rfl, rfl⟩
    | some g => cases same
  | some f =>
    cases filter' with
    | none => cases same
    | some g => exact f.isDetermined fits g fits' (Option.some.inj same)

/-- A text that closes the quotation and starts a statement of its own leaves the clause as it
is. -/
theorem clause_text_eq_of_injected_statement :
    let filter (name pattern : String) (roles : List Value) : Filter := .group
      (some [.condition ⟨"name", .eq, some (.string name)⟩,
        .any [.condition ⟨"email", .endsWith, some (.string pattern)⟩,
          .condition ⟨"role", .isIn, some (.array roles)⟩]])
      (some [.condition ⟨"age", .between, some (.array [.ofNat 18, .ofNat 30])⟩])
    let harmless := filter "Alice" "example.com" [.string "admin", .string "editor"]
    let hostile := filter "'; DROP TABLE users; --" "%' OR '1'='1" [.string "?", .bool true]
    harmless.skeleton = hostile.skeleton ∧
      ∃ c c' : Clause, clause (some harmless) = .ok c ∧ clause (some hostile) = .ok c' ∧
        c'.text = "((name = ? AND (email LIKE ? OR role IN (?, ?))) AND (age BETWEEN ? AND ?))" ∧
        c.text = c'.text ∧ c.parameters.length = c'.parameters.length := by
  intro filter harmless hostile
  have same : (some harmless).map skeleton = (some hostile).map skeleton := rfl
  have compiled : clause (some harmless) = .ok ⟨rendering Clause.mark (some harmless),
      operands (allLeaves (some harmless))⟩ := rfl
  have compiled' : clause (some hostile) = .ok ⟨rendering Clause.mark (some hostile),
      operands (allLeaves (some hostile))⟩ := rfl
  exact ⟨Option.some.inj same, _, _, compiled, compiled', rfl,
    clause_text_eq_of_skeleton_eq compiled compiled' same⟩

end Filter

end SchemaFilter
