import SchemaFilter.Filter.Meaning

/-!
# Search conditions of SQL

What a clause says of a row. A search condition is put together with AND and OR from tests of single
columns, and every test compares a column with operands: a parameter that has been bound, or a
placeholder that has not.

SQL knows three truth values. Comparing with NULL has an unknown outcome, IS NULL and IS NOT NULL
alone tell NULL from other values, and a row is selected if the condition is true, not if it is
merely not false. A column that a record does not have is NULL. How two values other than NULL compare
is what `Value.equal` and `Value.order?` say; LIKE differs from one database to the next and is left
open.
-/

namespace SchemaFilter.Sql

/-- A truth value of SQL. -/
inductive Truth where
  | yes
  | no
  | unknown
deriving DecidableEq, Repr

namespace Truth

def ofBool : Bool → Truth
  | true => yes
  | false => no

/-- Whether both of two things hold. If one does not, the other is of no account. -/
def and : Truth → Truth → Truth
  | yes, yes => yes
  | no, _ | _, no => no
  | _, _ => unknown

/-- Whether one of two things holds. If one does, the other is of no account. -/
def or : Truth → Truth → Truth
  | no, no => no
  | yes, _ | _, yes => yes
  | _, _ => unknown

theorem ofBool_beq_yes (b : Bool) : (ofBool b == yes) = b := by
  cases b <;> rfl

theorem and_beq_yes (a b : Truth) : (a.and b == yes) = (a == yes && b == yes) := by
  cases a <;> cases b <;> rfl

theorem or_beq_yes (a b : Truth) : (a.or b == yes) = (a == yes || b == yes) := by
  cases a <;> cases b <;> rfl

end Truth

/-! ## Expressions -/

inductive Connective where
  | and
  | or
deriving DecidableEq, Repr

namespace Connective

/-- What a connective makes of no expressions at all. -/
def neutral : Connective → Bool
  | and => true
  | or => false

def answer : Connective → Bool → Bool → Bool
  | and => Bool.and
  | or => Bool.or

def truth : Connective → Truth → Truth → Truth
  | and => Truth.and
  | or => Truth.or

/-- Whether a connective makes something true depends on what is true, not on what is unknown. -/
theorem truth_beq_yes (k : Connective) (a b : Truth) :
    (k.truth a b == .yes) = k.answer (a == .yes) (b == .yes) := by
  cases k with
  | and => exact Truth.and_beq_yes a b
  | or => exact Truth.or_beq_yes a b

theorem truth_ofBool (k : Connective) (a b : Bool) :
    k.truth (.ofBool a) (.ofBool b) = .ofBool (k.answer a b) := by
  cases k <;> cases a <;> cases b <;> rfl

/-- What is joined to nothing stays as it is. -/
theorem answer_neutral (k : Connective) (b : Bool) : k.answer b k.neutral = b := by
  cases k <;> cases b <;> rfl

end Connective

/-- A search condition over tests of some kind. -/
inductive Expression (α : Type) where
  | constant (b : Bool)
  | test (a : α)
  | joined (k : Connective) (first second : Expression α)
deriving DecidableEq, Repr

namespace Expression

variable {α β : Type}

/-- The tests of an expression from left to right. -/
def tests : Expression α → List α
  | constant _ => []
  | test a => [a]
  | joined _ first second => first.tests ++ second.tests

def map (g : α → β) : Expression α → Expression β
  | constant b => constant b
  | test a => test (g a)
  | joined k first second => joined k (first.map g) (second.map g)

/-- Whether an expression holds if every test either holds or does not. -/
def holds (answer : α → Bool) : Expression α → Bool
  | constant b => b
  | test a => answer a
  | joined k first second => k.answer (first.holds answer) (second.holds answer)

def truth (value : α → Truth) : Expression α → Truth
  | constant b => .ofBool b
  | test a => value a
  | joined k first second => k.truth (first.truth value) (second.truth value)

def chain (k : Connective) : List (Expression α) → Expression α
  | [] => constant k.neutral
  | [e] => e
  | e :: rest => joined k e (chain k rest)

@[simp] theorem chain_cons_cons (k : Connective) (e f : Expression α)
    (rest : List (Expression α)) : chain k (e :: f :: rest) = joined k e (chain k (f :: rest)) :=
  rfl

theorem tests_chain (k : Connective) (list : List (Expression α)) :
    (chain k list).tests = list.flatMap tests := by
  induction list with
  | nil => rfl
  | cons e rest ih =>
    cases rest with
    | nil => simp [chain]
    | cons f rest => rw [chain_cons_cons, tests, ih]; rfl

theorem tests_map (g : α → β) (e : Expression α) : (e.map g).tests = e.tests.map g := by
  induction e with
  | constant b => rfl
  | test a => rfl
  | joined k first second ih ih' => rw [map, tests, tests, ih, ih', List.map_append]

theorem holds_map (answer : β → Bool) (g : α → β) (e : Expression α) :
    (e.map g).holds answer = e.holds fun a => answer (g a) := by
  induction e with
  | constant b => rfl
  | test a => rfl
  | joined k first second ih ih' => rw [map, holds, holds, ih, ih']

/-- The more tests hold, the more does an expression of them. -/
theorem holds_mono {answer answer' : α → Bool} {e : Expression α}
    (le : ∀ a ∈ e.tests, answer a = true → answer' a = true) (h : e.holds answer = true) :
    e.holds answer' = true := by
  induction e with
  | constant b => exact h
  | test a => exact le a (List.mem_singleton_self a) h
  | joined k first second ih ih' =>
    rw [tests, List.forall_mem_append] at le
    cases k with
    | and =>
      obtain ⟨left, right⟩ := Bool.and_eq_true_iff.1 h
      exact Bool.and_eq_true_iff.2 ⟨ih le.1 left, ih' le.2 right⟩
    | or =>
      refine Bool.or_eq_true_iff.2 ?_
      obtain left | right := Bool.or_eq_true_iff.1 h
      · exact .inl (ih le.1 left)
      · exact .inr (ih' le.2 right)

/-- A chain holds if each of its parts does, or if one of them does, as the connective has it. -/
theorem holds_chain (answer : α → Bool) (k : Connective) (list : List (Expression α)) :
    (chain k list).holds answer =
      list.foldr (fun e others => k.answer (e.holds answer) others) k.neutral := by
  induction list with
  | nil => rfl
  | cons e rest ih =>
    cases rest with
    | nil => rw [List.foldr_cons, List.foldr_nil, Connective.answer_neutral, chain]
    | cons f rest => rw [chain_cons_cons, holds, ih]; rfl

/-- There is no negation, so an expression is true exactly if it holds when the tests that are not
true are taken to be false. -/
theorem truth_beq_yes (value : α → Truth) (e : Expression α) :
    (e.truth value == .yes) = e.holds fun a => value a == .yes := by
  induction e with
  | constant b => exact Truth.ofBool_beq_yes b
  | test a => rfl
  | joined k first second ih ih' => rw [truth, Connective.truth_beq_yes, ih, ih', holds]

/-- An expression without tests is known to hold or known not to. -/
theorem truth_of_tests_eq_nil (value : α → Truth) (answer : α → Bool) {e : Expression α}
    (untested : e.tests = []) : e.truth value = .ofBool (e.holds answer) := by
  induction e with
  | constant b => rfl
  | test a => cases untested
  | joined k first second ih ih' =>
    rw [tests, List.append_eq_nil_iff] at untested
    rw [truth, holds, ih untested.1, ih' untested.2, Connective.truth_ofBool]

end Expression

/-! ## Tests -/

inductive Sign where
  | equal
  | unequal
  | greater
  | less
  | atLeast
  | atMost
deriving DecidableEq, Repr

/-- Whether two values that are not NULL compare as a sign says. -/
def Sign.holds (s : Sign) (a b : Value) : Bool :=
  match s with
  | equal => a.equal b
  | unequal => !a.equal b
  | greater => a.order? b == some .gt
  | less => a.order? b == some .lt
  | atLeast => a.atLeast b
  | atMost => a.atMost b

/-- What a test asks of a column. -/
inductive Form where
  | comparison (s : Sign)
  | like
  | membership
  | range
  | null
  | notNull
deriving DecidableEq, Repr

/-- A test of a column. An operand is a value, or a placeholder if there is none. -/
structure Test where
  field : String
  form : Form
  operands : List (Option Value)
deriving Repr

/-- The outcome of a comparison. With NULL, and with nothing, it is unknown. -/
def compared (decided : Value → Value → Bool) (a : Value) : Option Value → Truth
  | some b => if a.isNull || b.isNull then .unknown else .ofBool (decided a b)
  | none => .unknown

def Test.truth (like : Value → Value → Bool) (row : Value) (t : Test) : Truth :=
  let actual := row.field t.field
  match t.form, t.operands with
  | .comparison s, [operand] => compared s.holds actual operand
  | .like, [operand] => compared like actual operand
  | .membership, operands =>
    operands.foldr (fun operand others => (compared Value.equal actual operand).or others) .no
  | .range, [low, high] =>
    (compared Value.atLeast actual low).and (compared Value.atMost actual high)
  | .null, [] => .ofBool actual.isNull
  | .notNull, [] => .ofBool (!actual.isNull)
  | _, _ => .unknown

end SchemaFilter.Sql
