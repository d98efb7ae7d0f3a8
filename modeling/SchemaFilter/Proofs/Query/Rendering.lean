import SchemaFilter.Proofs.Filter.Leaves
import SchemaFilter.Proofs.Outcome
import SchemaFilter.Query.Clause

/-!
# Renderings

The rendering of a filter is its text as SQL with every operand in its place, depth first and
conjuncts before disjuncts. How operands are written is left open. If each of them is written as a
question mark, the rendering is the text of the clause, and the parameters are the operands of the
conditions in tree order; `clause_eq` says so, and that the only errors are those of conditions
whose operand does not go with their operator.

`Writes` is the invariant that carries this through the tree: what is bound while a part is written
comes after what has been bound before.
-/

namespace SchemaFilter

namespace Condition

def refusal? (c : Condition) : Option QueryError :=
  match c.operator, c.operand with
  | .isNull, _ | .isNotNull, _ => none
  | .isIn, some (.array _) | .between, some (.array [_, _]) => none
  | .isIn, _ => some (c.expected .list)
  | .between, some (.array _) => some (c.expected .pair)
  | .between, _ => some (c.expected .list)
  | _, none => some (c.expected .value)
  | .contains, some v | .startsWith, some v | .endsWith, some v =>
    if v.scalarText?.isSome then none else some (c.expected .scalar)
  | _, some _ => none

theorem exists_items_of_isIn {field : String} {operand : Option Value}
    (h : (⟨field, .isIn, operand⟩ : Condition).refusal? = none) :
    ∃ items, operand = some (.array items) := by
  match operand with
  | some (.array items) => exact ⟨items, rfl⟩
  | none | some .null | some (.bool _) | some (.number _) | some (.string _)
  | some (.object _) => cases h

theorem exists_bounds_of_between {field : String} {operand : Option Value}
    (h : (⟨field, .between, operand⟩ : Condition).refusal? = none) :
    ∃ low high, operand = some (.array [low, high]) := by
  match operand with
  | some (.array [low, high]) => exact ⟨low, high, rfl⟩
  | some (.array []) | some (.array [_]) | some (.array (_ :: _ :: _ :: _)) => cases h
  | none | some .null | some (.bool _) | some (.number _) | some (.string _)
  | some (.object _) => cases h

/-- The text that an operator on texts looks for. -/
def soughtText (v : Value) : String :=
  v.scalarText?.getD ""

/-- The operands of a condition in the order in which they are written. -/
def operands (c : Condition) : List Value :=
  match c.operator, c.operand with
  | .isNull, _ | .isNotNull, _ => []
  | .isIn, some (.array items) => items
  | .between, some (.array [low, high]) => [low, high]
  | .isIn, _ | .between, _ | _, none => []
  | .contains, some v => [.string ("%" ++ soughtText v ++ "%")]
  | .startsWith, some v => [.string (soughtText v ++ "%")]
  | .endsWith, some v => [.string ("%" ++ soughtText v)]
  | _, some v => [v]

def comparison (field sign operand : String) : String :=
  field ++ " " ++ sign ++ " " ++ operand

/-- A condition with its operands in their places. -/
def rendered (write : Value → String) (c : Condition) : String :=
  match c.operator, c.operand with
  | .isNull, _ => c.field ++ " IS NULL"
  | .isNotNull, _ => c.field ++ " IS NOT NULL"
  | .isIn, some (.array []) => "1=0"
  | .isIn, some (.array items) => c.field ++ " IN (" ++ ", ".intercalate (items.map write) ++ ")"
  | .between, some (.array [low, high]) =>
    c.field ++ " BETWEEN " ++ write low ++ " AND " ++ write high
  | .isIn, _ | .between, _ | _, none => ""
  | .eq, some v => comparison c.field "=" (write v)
  | .neq, some v => comparison c.field "<>" (write v)
  | .gt, some v => comparison c.field ">" (write v)
  | .lt, some v => comparison c.field "<" (write v)
  | .gte, some v => comparison c.field ">=" (write v)
  | .lte, some v => comparison c.field "<=" (write v)
  | .contains, some v => comparison c.field "LIKE" (write (.string ("%" ++ soughtText v ++ "%")))
  | .startsWith, some v => comparison c.field "LIKE" (write (.string (soughtText v ++ "%")))
  | .endsWith, some v => comparison c.field "LIKE" (write (.string ("%" ++ soughtText v)))

end Condition

namespace Filter

/-- The branches of a group, with parentheses around them if both are set. -/
def renderedGroup : Option String → Option String → String
  | some first, some second => "(" ++ first ++ " AND " ++ second ++ ")"
  | some only, none | none, some only => only
  | none, none => "1=1"

mutual

def rendered (write : Value → String) : Filter → String
  | condition c => c.rendered write
  | group conjuncts disjuncts =>
    renderedGroup (renderedBranch write " AND " "1=1" conjuncts)
      (renderedBranch write " OR " "1=0" disjuncts)

/-- A branch, if it is set: its filters in parentheses, or a text of its own without any. -/
def renderedBranch (write : Value → String) (word empty : String) :
    Option (List Filter) → Option String
  | none => none
  | some [] => some empty
  | some (child :: rest) =>
    some ("(" ++ word.intercalate (rendered write child :: renderedList write rest) ++ ")")

def renderedList (write : Value → String) : List Filter → List String
  | [] => []
  | child :: rest => rendered write child :: renderedList write rest

end

def rendering (write : Value → String) : Option Filter → String
  | none => "1=1"
  | some f => f.rendered write

theorem renderedList_eq (write : Value → String) (list : List Filter) :
    renderedList write list = list.map (rendered write) := by
  induction list with
  | nil => rw [renderedList, List.map_nil]
  | cons child rest ih => rw [renderedList, ih, List.map_cons]

theorem renderedBranch_some {write : Value → String} {word empty : String} {list : List Filter}
    (h : list ≠ []) : renderedBranch write word empty (some list) =
      some ("(" ++ word.intercalate (list.map (rendered write)) ++ ")") := by
  cases list with
  | nil => exact absurd rfl h
  | cons child rest => rw [renderedBranch, renderedList_eq, List.map_cons]

theorem renderedBranch_eq (write : Value → String) (word empty : String)
    (branch : Option (List Filter)) : renderedBranch write word empty branch =
      branch.map fun list => Clause.joined word empty (list.map (rendered write)) := by
  cases branch with
  | none => rw [renderedBranch, Option.map_none]
  | some list =>
    cases list with
    | nil => rw [renderedBranch]; rfl
    | cons child rest => rw [renderedBranch_some (List.cons_ne_nil child rest)]; rfl

end Filter

/-! ## Writing -/

/-- What comes of writing a part: an error, or a result and the values bound in the course of it,
after those bound before. -/
def Writes {α : Type} (part : Writing α) (refusal : Option QueryError) (result : α)
    (bound : List Value) : Prop :=
  ∀ before, part.run before =
    match refusal with
    | some e => .error e
    | none => .ok (result, before ++ bound)

namespace Writes

variable {α β : Type}

theorem pure (a : α) : Writes (Pure.pure a) none a [] := by
  intro before
  simp

theorem bindAll (values : List Value) : Writes (Clause.bindAll values) none () values := by
  intro before
  rfl

/-- Parts are written one after the other, up to the first error. -/
theorem bind {first : Writing α} {next : α → Writing β} {refusal refusal' : Option QueryError}
    {a : α} {b : β} {bound bound' : List Value} (h : Writes first refusal a bound)
    (h' : Writes (next a) refusal' b bound') :
    Writes (first >>= next) (refusal.or refusal') b (bound ++ bound') := by
  intro before
  rw [StateT.run_bind, h before]
  cases refusal with
  | some e => rfl
  | none =>
    rw [Option.none_or, Outcome.ok_bind, h' (before ++ bound), List.append_assoc]

theorem ok {a : α} {next : α → Writing β} {b : β} {bound : List Value}
    (h : Writes (next a) none b bound) :
    Writes (liftM (Except.ok a : Except QueryError α) >>= next) none b bound := by
  intro before
  exact h before

theorem error (e : QueryError) (next : α → Writing β) (b : β) (bound : List Value) :
    Writes (liftM (Except.error e : Except QueryError α) >>= next) (some e) b bound := by
  intro before
  rfl

theorem map {first : Writing α} {refusal : Option QueryError} {a : α} {bound : List Value}
    (h : Writes first refusal a bound) (f : α → β) :
    Writes (first >>= fun a => Pure.pure (f a)) refusal (f a) bound := by
  have both : Writes (first >>= fun a => Pure.pure (f a)) (refusal.or none) (f a) (bound ++ []) :=
    h.bind (pure (f a))
  rwa [Option.or_none, List.append_nil] at both

end Writes

namespace Clause

def mark (_ : Value) : String := "?"

variable (field : String)

theorem writes_comparing (sign : String) (v : Value) :
    Writes (comparing field sign v) none (Condition.comparison field sign "?") [v] := by
  have same : Condition.comparison field sign "?" = field ++ " " ++ sign ++ " ?" := by
    rw [Condition.comparison, String.append_assoc]
    rfl
  rw [same]
  exact (Writes.bindAll [v]).map _

theorem writes_member {values : List Value} (h : values ≠ []) :
    Writes (member field values) none
      (field ++ " IN (" ++ ", ".intercalate (values.map mark) ++ ")") values := by
  have notEmpty : values.isEmpty = false := by simpa using h
  have written := (Writes.bindAll values).map fun _ =>
    field ++ " IN (" ++ ", ".intercalate (values.map mark) ++ ")"
  intro before
  simp only [member, notEmpty, Bool.false_eq_true, if_false]
  exact written before

theorem writes_between (low high : Value) :
    Writes (between field low high) none (field ++ " BETWEEN " ++ "?" ++ " AND " ++ "?")
      [low, high] := by
  have same : field ++ " BETWEEN " ++ "?" ++ " AND " ++ "?" = field ++ " BETWEEN ? AND ?" := by
    simp [String.append_assoc]
  rw [same]
  exact (Writes.bindAll [low]).bind ((Writes.bindAll [high]).map _)

end Clause

namespace Condition

open Clause

/-- A condition is written with question marks for its operands, which it binds. -/
theorem writes_write (c : Condition) : Writes c.write c.refusal? (c.rendered mark) c.operands := by
  obtain ⟨field, op, operand⟩ := c
  cases op with
  | eq | neq | gt | lt | gte | lte =>
    cases operand with
    | none => exact Writes.error _ _ _ _
    | some v => exact Writes.ok (writes_comparing field _ v)
  | isIn =>
    cases operand with
    | none => exact Writes.error _ _ _ _
    | some v =>
      cases v with
      | array items =>
        cases items with
        | nil => exact Writes.ok (Writes.pure _)
        | cons v rest => exact Writes.ok (writes_member field (List.cons_ne_nil v rest))
      | _ => exact Writes.error _ _ _ _
  | between =>
    match operand with
    | some (.array [low, high]) => exact Writes.ok (writes_between field low high)
    | some (.array []) | some (.array [_]) | some (.array (_ :: _ :: _ :: _)) =>
      exact Writes.error _ _ _ _
    | none | some .null | some (.bool _) | some (.number _) | some (.string _)
    | some (.object _) => exact Writes.error _ _ _ _
  | contains | startsWith | endsWith =>
    cases operand with
    | none => exact Writes.error _ _ _ _
    | some v =>
      cases v with
      | bool _ | number _ | string _ => exact Writes.ok (writes_comparing field _ _)
      | _ => exact Writes.error _ _ _ _
  | isNull | isNotNull => exact Writes.pure _

end Condition

/-! ## Trees -/

namespace Filter

open Clause

/-- The first reason in tree order why conditions cannot be compiled, if there is one. -/
def refusal? (conditions : List Condition) : Option QueryError :=
  conditions.findSome? Condition.refusal?

def operands (conditions : List Condition) : List Value :=
  conditions.flatMap Condition.operands

theorem refusal?_append (first second : List Condition) :
    refusal? (first ++ second) = (refusal? first).or (refusal? second) :=
  List.findSome?_append

theorem operands_append (first second : List Condition) :
    operands (first ++ second) = operands first ++ operands second :=
  List.flatMap_append

theorem renderedGroup_eq (first second : Option String) :
    renderedGroup first second = ofBranches first second := by
  cases first <;> cases second <;> rfl

/-- Whether a filter is written as it is rendered with question marks. -/
def IsWritten (f : Filter) : Prop :=
  Writes f.writeNode (refusal? f.leaves) (f.rendered mark) (operands f.leaves)

theorem writes_writeList {list : List Filter} (h : ∀ f ∈ list, f.IsWritten) :
    Writes (writeList list) (refusal? (list.flatMap leaves)) (list.map (rendered mark))
      (operands (list.flatMap leaves)) := by
  induction list with
  | nil => exact Writes.pure []
  | cons child rest ih =>
    have head := h child List.mem_cons_self
    have tail := ih fun f hf => h f (List.mem_cons_of_mem child hf)
    rw [writeList, List.flatMap_cons, refusal?_append, operands_append]
    exact head.bind (tail.map _)

theorem writes_writeBranch (word empty : String) {branch : Option (List Filter)}
    (h : ∀ f ∈ children branch, f.IsWritten) :
    Writes (writeBranch word empty branch) (refusal? ((children branch).flatMap leaves))
      (renderedBranch mark word empty branch) (operands ((children branch).flatMap leaves)) := by
  cases branch with
  | none => exact Writes.pure none
  | some list =>
    have written := (writes_writeList h).map fun texts => some (joined word empty texts)
    rw [children_some, writeBranch]
    cases list with
    | nil => exact written
    | cons child rest =>
      rw [renderedBranch_some (List.cons_ne_nil child rest)]
      exact written

theorem isWritten (f : Filter) : f.IsWritten := by
  induction f with
  | condition c =>
    rw [IsWritten, leaves_condition]
    have h := c.writes_write
    have refused : refusal? [c] = c.refusal? := by
      cases hc : c.refusal? <;> simp [refusal?, hc]
    have bound : operands [c] = c.operands := List.append_nil _
    rw [refused, bound]
    exact h
  | group conjuncts disjuncts first second =>
    have conjunction := writes_writeBranch " AND " always first
    have disjunction := writes_writeBranch " OR " never second
    rw [IsWritten, writeNode, leaves_group, refusal?_append, operands_append, rendered,
      renderedGroup_eq]
    refine conjunction.bind ?_
    exact disjunction.map (ofBranches _)

/-- A filter compiles unless a condition has an operand that does not go with its operator, and the
error is that of the first such condition. The text of the clause is the rendering with question
marks, and its parameters are the operands in tree order. -/
theorem clause_eq (filter : Option Filter) :
    clause filter =
      match refusal? (allLeaves filter) with
      | some e => .error e
      | none => .ok ⟨rendering mark filter, operands (allLeaves filter)⟩ := by
  cases filter with
  | none => rfl
  | some f =>
    rw [clause, isWritten f []]
    simp only [allLeaves, rendering]
    cases refusal? f.leaves <;> rfl

/-- A clause is what a filter compiles to if none of its conditions refuses. -/
theorem clause_eq_ok_iff {filter : Option Filter} {c : Clause} :
    clause filter = .ok c ↔ (∀ leaf ∈ allLeaves filter, leaf.refusal? = none) ∧
      c = ⟨rendering mark filter, operands (allLeaves filter)⟩ := by
  rw [clause_eq, ← List.findSome?_eq_none_iff, ← refusal?]
  cases refusal? (allLeaves filter) with
  | some e => simp
  | none => simp [eq_comm]

end Filter

end SchemaFilter
