import SchemaFilter.Proofs.Query.Rendering
import SchemaFilter.Proofs.Sql.Phrase

/-!
# Reading clauses

The text of a clause reads as one search condition and no other, if the names of fields are plain.
Its tests are the conditions of the filter in tree order, and whichever of the conditions hold, the
search condition holds exactly if the filter does: every conjunct has to and, if there are
disjuncts, one of them. Parentheses are where they are needed, then, and the AND of a range is never
taken for a connective.

Conditions are told apart by their numbers in tree order, since a filter may hold one condition
twice. Membership in the empty list has no test; it reads as a condition that nothing fulfils.
-/

namespace SchemaFilter

open Sql

/-- What an operator asks of a column. -/
def Operator.form : Operator → Form
  | eq => .comparison .equal
  | neq => .comparison .unequal
  | gt => .comparison .greater
  | lt => .comparison .less
  | gte => .comparison .atLeast
  | lte => .comparison .atMost
  | isIn => .membership
  | between => .range
  | contains | startsWith | endsWith => .like
  | isNull => .null
  | isNotNull => .notNull

namespace Condition

def isEmptyMembership (c : Condition) : Bool :=
  match c.operator, c.operand with
  | .isIn, some (.array []) => true
  | _, _ => false

/-- A condition as a test of a column, with its operands or placeholders for them. -/
def test (fill : Filling) (c : Condition) : Test :=
  ⟨c.field, c.operator.form, c.operands.map fill⟩

def atom (number : Nat) (c : Condition) : Expression (Condition × Nat) :=
  if c.isEmptyMembership then .constant false else .test (c, number)

theorem eq_of_mem_tests_atom {c : Condition} {number : Nat} {x : Condition × Nat}
    (h : x ∈ (c.atom number).tests) : x = (c, number) := by
  unfold atom at h
  split at h
  · cases h
  · exact List.mem_singleton.1 h

end Condition

/-! ## The expression of a filter -/

namespace Filter

mutual

/-- A filter as an expression, its conditions being numbered from `start`. -/
def expression (start : Nat) : Filter → Expression (Condition × Nat)
  | condition c => c.atom start
  | group conjuncts disjuncts =>
    .chain .and (branchExpression .and start conjuncts ++
      branchExpression .or (start + branchCount conjuncts) disjuncts)

def branchExpression (k : Connective) (start : Nat) :
    Option (List Filter) → List (Expression (Condition × Nat))
  | none => []
  | some children => [.chain k (expressions start children)]

def expressions (start : Nat) : List Filter → List (Expression (Condition × Nat))
  | [] => []
  | child :: rest => expression start child :: expressions (start + child.conditionCount) rest

end

mutual

/-- Whether a filter holds if it is known of every condition whether it does. The conditions are
numbered from `start`. -/
def holdsGiven (answer : Condition × Nat → Bool) (start : Nat) : Filter → Bool
  | condition c => answer (c, start)
  | group conjuncts disjuncts =>
    branchHoldsGiven answer .and start conjuncts &&
      branchHoldsGiven answer .or (start + branchCount conjuncts) disjuncts

/-- Whether a branch holds: all of its filters or some of them. A branch that is not set holds. -/
def branchHoldsGiven (answer : Condition × Nat → Bool) (k : Connective) (start : Nat) :
    Option (List Filter) → Bool
  | none => true
  | some children => listHoldsGiven answer k start children

def listHoldsGiven (answer : Condition × Nat → Bool) (k : Connective) (start : Nat) :
    List Filter → Bool
  | [] => k.neutral
  | child :: rest =>
    k.answer (holdsGiven answer start child)
      (listHoldsGiven answer k (start + child.conditionCount) rest)

end

end Filter

/-! ## Conditions -/

def numberedTest (fill : Filling) (x : Condition × Nat) : Test :=
  x.1.test fill

namespace Condition

open Clause

/-- A condition is the name of its field with a text after it. -/
theorem phrase_test (c : Condition) (number : Nat) {ts : Filling → List Token} {text : String}
    {values : List Value} (reads : ∀ fill, ReadsTest (.name c.field :: ts fill) (c.test fill))
    (spells : Spells (ts blank) text) (binds : Binds ts values)
    (plain : ∀ t ∈ ts blank, t.IsPlain) :
    Phrase numberedTest .primary (c.field ++ (" " ++ text)) values (.test (c, number)) := by
  rw [← String.append_assoc]
  exact .test (c, number) ts reads spells binds plain

theorem phrase_operand {c : Condition} {v : Value} {t : Token} (fixed : t.IsFixed)
    (plain : t.IsPlain) (number : Nat)
    (reads : ∀ fill : Filling, ReadsTest [.name c.field, t, .operand (fill v)] (c.test fill)) :
    Phrase numberedTest .primary (comparison c.field t.text "?") [v] (.test (c, number)) := by
  have spells : Spells [t, .operand none] (t.text ++ " " ++ "?") :=
    .spaced (.token t) (.token (.operand none))
  have phrase := phrase_test c number reads spells ((Binds.nil.operand v).fixed fixed)
    (List.forall_mem_cons.2 ⟨plain, List.forall_mem_singleton.2 rfl⟩)
  simpa [comparison, String.append_assoc] using phrase

theorem phrase_comparison {field : String} {op : Operator} {v : Value} {s : Sign}
    (form : op.form = .comparison s) (number : Nat) :
    let c : Condition := ⟨field, op, some v⟩
    Phrase numberedTest .primary (c.rendered mark) c.operands (c.atom number) := by
  have phrase := phrase_operand (c := ⟨field, op, some v⟩) (v := v) (t := .sign s) trivial trivial
    number
  cases op <;> cases form <;> exact phrase fun fill => .comparison field _ _

theorem phrase_membership (field : String) {values : List Value} (some : values ≠ [])
    (number : Nat) :
    Phrase numberedTest .primary
      (field ++ " IN (" ++ ", ".intercalate (values.map mark) ++ ")") values
      (.test (⟨field, .isIn, .some (.array values)⟩, number)) := by
  have reads (fill : Filling) : ReadsTest
      (.name field :: .keyword .within :: .opening :: (listed (values.map fill) ++ [.closing]))
      (test fill ⟨field, .isIn, .some (.array values)⟩) :=
    .membership field (by simpa using some)
  have spells : Spells (.keyword .within :: .opening :: (listed (values.map blank) ++ [.closing]))
      ("IN" ++ " " ++ ("(" ++ ", ".intercalate (values.map mark) ++ ")")) :=
    .spaced (.token (.keyword .within)) (.enclosed (spells_listed some))
  have plain : ∀ t ∈ listed (values.map blank) ++ [.closing], t.IsPlain := by
    rw [List.forall_mem_append, List.forall_mem_singleton]
    exact ⟨fun t ht => isPlain_listed ht, trivial⟩
  have phrase := phrase_test ⟨field, .isIn, .some (.array values)⟩ number reads spells
    ((Binds.listed values).enclosed.fixed (t := .keyword .within) trivial)
    (by simpa [Token.IsPlain] using plain)
  -- the blank before the parenthesis belongs to the text of the clause, not to a token
  have same : field ++ " IN (" ++ ", ".intercalate (values.map mark) ++ ")" =
      field ++ (" " ++ ("IN" ++ " " ++ ("(" ++ ", ".intercalate (values.map mark) ++ ")"))) := by
    rw [← String.toList_inj]
    simp
  rw [same]
  exact phrase

theorem phrase_range (field : String) (low high : Value) (number : Nat) :
    Phrase numberedTest .primary (field ++ " BETWEEN " ++ "?" ++ " AND " ++ "?") [low, high]
      (.test (⟨field, .between, some (.array [low, high])⟩, number)) := by
  have spells : Spells [.keyword .between, .operand none, .keyword .and, .operand none]
      ("BETWEEN" ++ " " ++ "?" ++ " " ++ "AND" ++ " " ++ "?") :=
    (((Spells.token (.keyword .between)).spaced (.token (.operand none))).spaced
      (.token (.keyword .and))).spaced (.token (.operand none))
  have upper := ((Binds.nil.operand high).fixed (t := .keyword .and) trivial).operand low
  have phrase := phrase_test ⟨field, .between, some (.array [low, high])⟩ number
    (fun fill => .range field (fill low) (fill high)) spells
    (upper.fixed (t := .keyword .between) trivial) (by simp [Token.IsPlain])
  simpa [String.append_assoc] using phrase

theorem phrase_null (field : String) (operand : Option Value) (number : Nat) :
    Phrase numberedTest .primary (field ++ " IS NULL") []
      (.test (⟨field, .isNull, operand⟩, number)) := by
  have spells : Spells [.keyword .is, .keyword .null] ("IS" ++ " " ++ "NULL") :=
    .spaced (.token (.keyword .is)) (.token (.keyword .null))
  have binds : Binds (fun _ => [.keyword .is, .keyword .null]) [] :=
    .constant (by simp [Token.IsFixed])
  exact phrase_test ⟨field, .isNull, operand⟩ number (fun _ => .null field) spells binds
    (by simp [Token.IsPlain])

theorem phrase_notNull (field : String) (operand : Option Value) (number : Nat) :
    Phrase numberedTest .primary (field ++ " IS NOT NULL") []
      (.test (⟨field, .isNotNull, operand⟩, number)) := by
  have spells : Spells [.keyword .is, .keyword .not, .keyword .null]
      ("IS" ++ " " ++ "NOT" ++ " " ++ "NULL") :=
    ((Spells.token (.keyword .is)).spaced (.token (.keyword .not))).spaced
      (.token (.keyword .null))
  have binds : Binds (fun _ => [.keyword .is, .keyword .not, .keyword .null]) [] :=
    .constant (by simp [Token.IsFixed])
  exact phrase_test ⟨field, .isNotNull, operand⟩ number (fun _ => .notNull field) spells binds
    (by simp [Token.IsPlain])

/-- A condition that compiles is a phrase, with a test unless its list is empty. -/
theorem phrase {c : Condition} (fits : c.refusal? = none) (number : Nat) :
    Phrase numberedTest .primary (c.rendered mark) c.operands (c.atom number) := by
  obtain ⟨field, op, operand⟩ := c
  cases op with
  | eq | neq | gt | lt | gte | lte =>
    cases operand with
    | none => cases fits
    | some v => exact phrase_comparison rfl number
  | contains | startsWith | endsWith =>
    cases operand with
    | none => cases fits
    | some v =>
      exact phrase_operand (t := .keyword .like) trivial trivial number fun fill => .like field _
  | isIn =>
    obtain ⟨items, rfl⟩ := exists_items_of_isIn fits
    cases items with
    | nil => exact .empty .or
    | cons v rest => exact phrase_membership field (List.cons_ne_nil v rest) number
  | between =>
    obtain ⟨low, high, rfl⟩ := exists_bounds_of_between fits
    exact phrase_range field low high number
  | isNull => exact phrase_null field operand number
  | isNotNull => exact phrase_notNull field operand number

end Condition

/-! ## Trees -/

namespace Filter

open Clause

/-- The numbers of the conditions of a filter go on where those before it end. -/
theorem length_leaves (f : Filter) : f.leaves.length = f.conditionCount := by
  rw [← conditionsAt_map_snd Fault.rootPath, List.length_map, length_conditionsAt]

theorem length_leaves_branch (branch : Option (List Filter)) :
    ((children branch).flatMap leaves).length = branchCount branch := by
  rw [← branchLeaves_eq, ← branchConditions_map_snd Fault.rootPath, List.length_map,
    length_branchConditions]

/-! ### Text -/

/-- Whether the text of a filter is a phrase that reads as the expression of the filter. -/
def IsReadable (f : Filter) : Prop :=
  ∀ start, Phrase numberedTest .primary (f.rendered mark) (operands f.leaves) (f.expression start)

theorem phrases {list : List Filter} (h : ∀ f ∈ list, f.IsReadable) (start : Nat) :
    Phrases numberedTest (list.map (rendered mark)) (operands (list.flatMap leaves))
      (expressions start list) := by
  induction list generalizing start with
  | nil => exact .nil
  | cons f rest ih =>
    rw [List.forall_mem_cons] at h
    rw [List.map_cons, List.flatMap_cons, operands_append, expressions]
    exact .cons (h.1 start) (ih h.2 (start + f.conditionCount))

/-- A branch that is set is one phrase, in parentheses unless it is empty. -/
theorem branchPhrases (k : Connective) {branch : Option (List Filter)}
    (h : ∀ f ∈ children branch, f.IsReadable) (start : Nat) :
    Phrases numberedTest (renderedBranch mark k.word k.emptyText branch).toList
      (operands ((children branch).flatMap leaves)) (branchExpression k start branch) := by
  cases branch with
  | none =>
    rw [renderedBranch, branchExpression]
    exact .nil
  | some list =>
    rw [children_some] at h ⊢
    have phrase : Phrase numberedTest .primary
        (joined k.word k.emptyText (list.map (rendered mark)))
        (operands (list.flatMap leaves)) (.chain k (expressions start list)) := by
      cases list with
      | nil => exact .empty k
      | cons f rest => exact ((phrases h start).chain k (by simp)).outer.enclosed
    rw [renderedBranch_eq, branchExpression, ← List.append_nil (operands _)]
    exact .cons phrase .nil

/-- The branches of a group make one phrase, in parentheses if both of them are set. -/
theorem phrase_renderedGroup {first second : Option String} {values values' : List Value}
    {list list' : List (Expression (Condition × Nat))}
    (h : Phrases numberedTest first.toList values list)
    (h' : Phrases numberedTest second.toList values' list') :
    Phrase numberedTest .primary (renderedGroup first second) (values ++ values')
      (.chain .and (list ++ list')) := by
  cases first with
  | none =>
    cases h
    cases second with
    | none =>
      cases h'
      exact .empty .and
    | some text' =>
      obtain _ | ⟨right, ⟨⟩⟩ := h'
      simpa [renderedGroup, Expression.chain] using right
  | some text =>
    obtain _ | ⟨left, ⟨⟩⟩ := h
    cases second with
    | none =>
      cases h'
      simpa [renderedGroup, Expression.chain] using left
    | some text' =>
      obtain _ | ⟨right, ⟨⟩⟩ := h'
      have both := Phrases.cons left (.cons right .nil)
      have phrase := (both.chain .and (by simp)).outer.enclosed
      simpa [renderedGroup, Connective.word, Expression.chain, String.append_assoc] using phrase

theorem isReadable {f : Filter} (fits : ∀ c ∈ f.leaves, c.refusal? = none) : f.IsReadable := by
  induction f with
  | condition c =>
    intro start
    have leaf := c.phrase (fits c (by simp)) start
    rw [leaves_condition, operands, List.flatMap_singleton, rendered, expression]
    exact leaf
  | group conjuncts disjuncts first second =>
    rw [forall_leaves_group] at fits
    intro start
    rw [leaves_group, operands_append, rendered, expression]
    exact phrase_renderedGroup (branchPhrases .and (fun f hf => first f hf (fits.1 f hf)) start)
      (branchPhrases .or (fun f hf => second f hf (fits.2 f hf)) (start + branchCount conjuncts))

/-! ### Tests -/

/-- The conditions of a filter with their numbers, those without a test left out. -/
def tested (start : Nat) (conditions : List Condition) : List (Condition × Nat) :=
  (conditions.zipIdx start).filter fun x => !x.1.isEmptyMembership

theorem tested_append (start : Nat) (first second : List Condition) :
    tested start (first ++ second) = tested start first ++ tested (start + first.length) second := by
  rw [tested, List.zipIdx_append, List.filter_append, tested, tested]

theorem flatMap_tests_expressions {list : List Filter}
    (h : ∀ f ∈ list, ∀ start, (f.expression start).tests = tested start f.leaves) (start : Nat) :
    (expressions start list).flatMap Expression.tests = tested start (list.flatMap leaves) := by
  induction list generalizing start with
  | nil => rfl
  | cons f rest ih =>
    rw [List.forall_mem_cons] at h
    rw [expressions, List.flatMap_cons, h.1, ih h.2, List.flatMap_cons, tested_append,
      length_leaves]

theorem flatMap_tests_branchExpression (k : Connective) {branch : Option (List Filter)}
    (h : ∀ f ∈ children branch, ∀ start, (f.expression start).tests = tested start f.leaves)
    (start : Nat) : (branchExpression k start branch).flatMap Expression.tests =
      tested start ((children branch).flatMap leaves) := by
  cases branch with
  | none => rw [branchExpression]; rfl
  | some list =>
    rw [branchExpression, List.flatMap_singleton, Expression.tests_chain]
    exact flatMap_tests_expressions h start

/-- The tests of a filter are its conditions in tree order. -/
theorem tests_expression (f : Filter) :
    ∀ start, (f.expression start).tests = tested start f.leaves := by
  induction f with
  | condition c =>
    intro start
    rw [expression, Condition.atom, leaves_condition]
    cases h : c.isEmptyMembership <;> simp [tested, Expression.tests, h]
  | group conjuncts disjuncts first second =>
    intro start
    rw [expression, Expression.tests_chain, List.flatMap_append,
      flatMap_tests_branchExpression .and first, flatMap_tests_branchExpression .or second,
      leaves_group, tested_append, length_leaves_branch]

theorem map_numberedTest_tested (fill : Filling) (start : Nat) (conditions : List Condition) :
    (tested start conditions).map (numberedTest fill) =
      (conditions.filter fun c => !c.isEmptyMembership).map (Condition.test fill) := by
  have unnumbered : (tested start conditions).map Prod.fst =
      conditions.filter fun c => !c.isEmptyMembership := by
    rw [tested, ← List.zipIdx_map_fst start conditions, List.filter_map, List.zipIdx_map_fst]
    rfl
  rw [← unnumbered, List.map_map]
  rfl

theorem mem_leaves_of_mem_tests {f : Filter} {start : Nat} {x : Condition × Nat}
    (h : x ∈ (f.expression start).tests) : x.1 ∈ f.leaves := by
  rw [tests_expression] at h
  exact List.fst_mem_of_mem_zipIdx (List.mem_of_mem_filter h)

/-! ### Truth -/

/-- Answers for conditions, except that nothing is in the empty list. -/
def sparing (answer : Condition × Nat → Bool) (x : Condition × Nat) : Bool :=
  !x.1.isEmptyMembership && answer x

variable {answer : Condition × Nat → Bool}

theorem holds_chain_expressions (k : Connective) {list : List Filter}
    (h : ∀ f ∈ list, ∀ start,
      (f.expression start).holds answer = f.holdsGiven (sparing answer) start) (start : Nat) :
    (Expression.chain k (expressions start list)).holds answer =
      listHoldsGiven (sparing answer) k start list := by
  rw [Expression.holds_chain]
  induction list generalizing start with
  | nil => rfl
  | cons f rest ih =>
    rw [List.forall_mem_cons] at h
    rw [expressions, List.foldr_cons, ih h.2, h.1, listHoldsGiven]

/-- Branches joined by AND hold if each of them that is set does. -/
theorem foldr_branchExpression (k : Connective) {branch : Option (List Filter)}
    (h : ∀ f ∈ children branch, ∀ start,
      (f.expression start).holds answer = f.holdsGiven (sparing answer) start) (start : Nat)
    (others : Bool) :
    (branchExpression k start branch).foldr
        (fun e others => Connective.and.answer (e.holds answer) others) others =
      (branchHoldsGiven (sparing answer) k start branch && others) := by
  cases branch with
  | none => rw [branchExpression, branchHoldsGiven]; rfl
  | some list =>
    rw [children_some] at h
    rw [branchExpression, branchHoldsGiven, ← holds_chain_expressions k h]
    rfl

/-- The expression of a filter holds exactly if the filter does. -/
theorem holds_expression (answer : Condition × Nat → Bool) (f : Filter) :
    ∀ start, (f.expression start).holds answer = f.holdsGiven (sparing answer) start := by
  induction f with
  | condition c =>
    intro start
    rw [expression, Condition.atom, holdsGiven, sparing]
    cases c.isEmptyMembership <;> rfl
  | group conjuncts disjuncts first second =>
    intro start
    rw [expression, Expression.holds_chain, List.foldr_append, foldr_branchExpression .or second,
      foldr_branchExpression .and first, holdsGiven]
    exact congrArg _ (Bool.and_true _)

/-- If a filter compiles and its fields have plain names, the text of its clause reads as one search
condition. The tests of this condition are the conditions of the filter in tree order, each of them
reading the same where it stands alone, and whichever conditions hold, it holds exactly if the
filter does. -/
theorem clause_reads {f : Filter} {c : Clause} (compiled : clause (some f) = .ok c)
    (names : ∀ leaf ∈ f.leaves, IsName leaf.field) :
    ∃ e : Expression (Condition × Nat), ReadsText c.text (e.map (numberedTest blank)) ∧
      (∀ other, ReadsText c.text other → other = e.map (numberedTest blank)) ∧
      e.tests = f.leaves.zipIdx.filter (fun x => !x.1.isEmptyMembership) ∧
      (∀ x ∈ f.leaves.zipIdx,
        ReadsText (x.1.rendered mark) ((x.1.atom x.2).map (numberedTest blank))) ∧
      ∀ answer : Condition × Nat → Bool, e.holds answer = f.holdsGiven (sparing answer) 0 := by
  obtain ⟨fits, rfl⟩ := clause_eq_ok_iff.1 compiled
  have reads : ReadsText (f.rendered mark) ((f.expression 0).map (numberedTest blank)) :=
    (isReadable fits 0).readsText fun x hx => names x.1 (mem_leaves_of_mem_tests hx)
  refine ⟨f.expression 0, reads, fun other h => h.unique reads, tests_expression f 0,
    fun x hx => ?_, fun answer => holds_expression answer f 0⟩
  -- alone, a condition names only its own field
  have leaf := List.fst_mem_of_mem_zipIdx hx
  refine (x.1.phrase (fits x.1 leaf) x.2).readsText fun y hy => ?_
  rw [Condition.eq_of_mem_tests_atom hy]
  exact names x.1 leaf

/-- A range stands next to a connective, a list is empty, and so is a branch. -/
theorem clause_reads_of_range_in_group :
    let range : Condition := ⟨"age", .between, some (.array [.ofNat 18, .ofNat 30])⟩
    let unnamed : Condition := ⟨"name", .isNull, none⟩
    let filter : Filter := .group
      (some [.condition range, .any [.condition ⟨"role", .isIn, some (.array [])⟩,
        .condition unnamed], .all []])
      (some [.condition ⟨"status", .eq, some (.string "active")⟩, .group none none])
    (∀ leaf ∈ filter.leaves, IsName leaf.field) ∧
      ∃ (c : Clause) (e : Expression (Condition × Nat)), clause (some filter) = .ok c ∧
        c.text = "((age BETWEEN ? AND ? AND (1=0 OR name IS NULL) AND 1=1) AND (status = ? OR 1=1))" ∧
        ReadsText c.text (e.map (numberedTest blank)) ∧
        ∀ answer, e.holds answer = (answer (range, 0) && answer (unnamed, 2)) := by
  intro range unnamed filter
  have names : ∀ leaf ∈ filter.leaves, IsName leaf.field := by decide
  have compiled : clause (some filter) = .ok ⟨rendering mark (some filter),
      operands (allLeaves (some filter))⟩ := rfl
  obtain ⟨e, reads, -, -, -, holds⟩ := clause_reads compiled names
  refine ⟨names, _, e, compiled, rfl, reads, fun answer => (holds answer).trans ?_⟩
  simp [filter, any, all, holdsGiven, branchHoldsGiven, listHoldsGiven, branchCount, listCount,
    conditionCount, sparing, Condition.isEmptyMembership, Connective.neutral, Connective.answer,
    range, unnamed]

end Filter

end SchemaFilter
