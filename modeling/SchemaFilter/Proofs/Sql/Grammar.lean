import SchemaFilter.Proofs.Sql.Expression

/-!
# Reading search conditions

How tokens of SQL are read as a search condition. AND binds tighter than OR, parentheses group, and
the AND between the bounds of BETWEEN belongs to the test. Several conditions joined by one
connective are grouped to the right, which makes no difference to what they say.

`Reads` has a rule for each of these. The main result is that it never reads the same tokens in two
ways: what a level of the grammar has read ends where a token comes that cannot continue it.
-/

namespace SchemaFilter.Sql

/-- The words that search conditions keep for themselves. -/
inductive Keyword where
  | and
  | or
  | within
  | between
  | like
  | is
  | not
  | null
deriving DecidableEq, Repr

/-- A token. Numbers count as names. -/
inductive Token where
  | name (text : String)
  | keyword (k : Keyword)
  | sign (s : Sign)
  /-- A value that has been bound, or a placeholder. -/
  | operand (v : Option Value)
  | opening
  | closing
  | comma

def Connective.keyword : Connective → Token
  | and => .keyword .and
  | or => .keyword .or

def listed : List (Option Value) → List Token
  | [] => []
  | [v] => [.operand v]
  | v :: rest => .operand v :: .comma :: listed rest

inductive ReadsTest : List Token → Test → Prop where
  | comparison (field : String) (s : Sign) (v : Option Value) :
    ReadsTest [.name field, .sign s, .operand v] ⟨field, .comparison s, [v]⟩
  | like (field : String) (v : Option Value) :
    ReadsTest [.name field, .keyword .like, .operand v] ⟨field, .like, [v]⟩
  | membership (field : String) {list : List (Option Value)} (some : list ≠ []) :
    ReadsTest (.name field :: .keyword .within :: .opening :: (listed list ++ [.closing]))
      ⟨field, .membership, list⟩
  | range (field : String) (low high : Option Value) :
    ReadsTest [.name field, .keyword .between, .operand low, .keyword .and, .operand high]
      ⟨field, .range, [low, high]⟩
  | null (field : String) : ReadsTest [.name field, .keyword .is, .keyword .null] ⟨field, .null, []⟩
  | notNull (field : String) :
    ReadsTest [.name field, .keyword .is, .keyword .not, .keyword .null] ⟨field, .notNull, []⟩

/-- How tightly a part of an expression is bound: not to be taken apart, or joined by a
connective. -/
inductive Level where
  | primary
  | joined (k : Connective)

/-- What a connective joins. -/
def Connective.inner : Connective → Level
  | and => .primary
  | or => .joined .and

/-- The tokens of an expression at a level. -/
inductive Reads : Level → List Token → Expression Test → Prop where
  | always : Reads .primary [.name "1", .sign .equal, .name "1"] (.constant true)
  | never : Reads .primary [.name "1", .sign .equal, .name "0"] (.constant false)
  | test {ts : List Token} {t : Test} (h : ReadsTest ts t) : Reads .primary ts (.test t)
  | enclosed {ts : List Token} {e : Expression Test} (h : Reads (.joined .or) ts e) :
    Reads .primary (.opening :: (ts ++ [.closing])) e
  | single {k : Connective} {ts : List Token} {e : Expression Test} (h : Reads k.inner ts e) :
    Reads (.joined k) ts e
  | more {k : Connective} {ts us : List Token} {e f : Expression Test} (first : Reads k.inner ts e)
    (second : Reads (.joined k) us f) : Reads (.joined k) (ts ++ k.keyword :: us) (.joined k e f)

abbrev IsCondition (ts : List Token) (e : Expression Test) : Prop :=
  Reads (.joined .or) ts e

/-! ## Reading is unambiguous -/

theorem listed_cons {v : Option Value} {list : List (Option Value)} (h : list ≠ []) :
    listed (v :: list) = .operand v :: .comma :: listed list := by
  cases list with
  | nil => exact absurd rfl h
  | cons w rest => rfl

/-- A list of operands ends at the parenthesis that closes it. -/
theorem listed_unique {list list' : List (Option Value)} {rest rest' : List Token}
    (some : list ≠ []) (some' : list' ≠ [])
    (same : listed list ++ .closing :: rest = listed list' ++ .closing :: rest') :
    list = list' ∧ rest = rest' := by
  induction list generalizing list' with
  | nil => exact absurd rfl some
  | cons v tail ih =>
    cases list' with
    | nil => exact absurd rfl some'
    | cons w tail' =>
      cases tail with
      | nil =>
        cases tail' with
        | nil => simpa [listed] using same
        | cons w' tail' => simp [listed] at same
      | cons v' tail =>
        cases tail' with
        | nil => simp [listed] at same
        | cons w' tail' =>
          rw [listed_cons (List.cons_ne_nil v' tail), listed_cons (List.cons_ne_nil w' tail')] at same
          simp only [List.cons_append, List.cons.injEq, Token.operand.injEq, true_and] at same
          obtain ⟨tails, rests⟩ :=
            ih (List.cons_ne_nil v' tail) (List.cons_ne_nil w' tail') same.2
          exact ⟨by rw [same.1, tails], rests⟩

/-- Of two tests that tokens start with, neither is longer, and both are the same. -/
theorem ReadsTest.unique {ts ts' rest rest' : List Token} {t t' : Test} (h : ReadsTest ts t)
    (h' : ReadsTest ts' t') (same : ts ++ rest = ts' ++ rest') : t = t' ∧ rest = rest' := by
  cases h with
  | membership field some =>
    cases h' with
    | membership field' some' =>
      simp only [List.cons_append, List.append_assoc, List.nil_append, List.cons.injEq,
        Token.name.injEq, true_and] at same
      obtain ⟨rfl, lists⟩ := same
      obtain ⟨rfl, rests⟩ := listed_unique some some' lists
      exact ⟨rfl, rests⟩
    | _ => simp at same
  | _ => cases h' <;> simp_all

/-- Whether a token at the front of what follows would continue an expression of a level. -/
def Continues : Level → List Token → Prop
  | .primary, _ => False
  | .joined .and, rest => rest.head? = some (.keyword .and)
  | .joined .or, rest => rest.head? = some (.keyword .and) ∨ rest.head? = some (.keyword .or)

/-- What does not continue a chain continues none of its parts. -/
theorem not_continues_inner {k : Connective} {rest : List Token}
    (h : ¬ Continues (.joined k) rest) : ¬ Continues k.inner rest := by
  cases k with
  | and => exact id
  | or => exact fun continues => h (.inl continues)

/-- The word of a connective does not continue what it joins. -/
theorem not_continues_keyword (k : Connective) (rest : List Token) :
    ¬ Continues k.inner (k.keyword :: rest) := by
  cases k with
  | and => exact id
  | or => exact fun continues => by cases continues

theorem continues_keyword (k : Connective) (rest : List Token) :
    Continues (.joined k) (k.keyword :: rest) := by
  cases k with
  | and => rfl
  | or => exact .inr rfl

theorem not_continues_closing (rest : List Token) :
    ¬ Continues (.joined .or) (.closing :: rest) := by
  rintro (h | h) <;> cases h

/-- Of two expressions of one level that tokens start with, neither is longer, and both are the
same, if what follows continues neither. -/
theorem Reads.unique_prefix {l : Level} {ts ts' rest rest' : List Token} {e e' : Expression Test}
    (h : Reads l ts e) (h' : Reads l ts' e') (same : ts ++ rest = ts' ++ rest')
    (stops : ¬ Continues l rest) (stops' : ¬ Continues l rest') : e = e' ∧ rest = rest' := by
  induction h generalizing ts' e' rest rest' with
  | always =>
    cases h' with
    | always => simpa using same
    | never => simp at same
    | test h' => cases h' <;> simp at same
    | enclosed h' => simp at same
  | never =>
    cases h' with
    | always => simp at same
    | never => simpa using same
    | test h' => cases h' <;> simp at same
    | enclosed h' => simp at same
  | test h =>
    cases h' with
    | always => cases h <;> simp at same
    | never => cases h <;> simp at same
    | test h' =>
      obtain ⟨rfl, rests⟩ := h.unique h' same
      exact ⟨rfl, rests⟩
    | enclosed h' => cases h <;> simp at same
  | enclosed h ih =>
    cases h' with
    | always => simp at same
    | never => simp at same
    | test h' => cases h' <;> simp at same
    | enclosed h' =>
      simp only [List.cons_append, List.append_assoc, List.nil_append, List.cons.injEq,
        true_and] at same
      obtain ⟨rfl, rests⟩ :=
        ih h' same (not_continues_closing rest) (not_continues_closing rest')
      exact ⟨rfl, (List.cons.inj rests).2⟩
  | @single k ts e h ih =>
    cases h' with
    | single h' => exact ih h' same (not_continues_inner stops) (not_continues_inner stops')
    | @more _ ts' us' f f' first' second' =>
      -- the longer chain would go on where the shorter one has ended
      rw [List.append_assoc, List.cons_append] at same
      obtain ⟨-, rests⟩ := ih first' same (not_continues_inner stops) (not_continues_keyword k _)
      exact absurd (rests ▸ continues_keyword k _) stops
  | @more k ts us e f first second ih ih' =>
    rw [List.append_assoc, List.cons_append] at same
    cases h' with
    | single h' =>
      obtain ⟨-, rests⟩ := ih h' same (not_continues_keyword k _) (not_continues_inner stops')
      exact absurd (rests ▸ continues_keyword k _) stops'
    | @more _ ts' us' _ _ first' second' =>
      rw [List.append_assoc, List.cons_append] at same
      obtain ⟨rfl, rests⟩ :=
        ih first' same (not_continues_keyword k _) (not_continues_keyword k _)
      obtain ⟨rfl, rests⟩ := ih' second' (List.cons.inj rests).2 stops stops'
      exact ⟨rfl, rests⟩

/-- Tokens are one search condition at most. -/
theorem Reads.unique {ts : List Token} {e e' : Expression Test} (h : IsCondition ts e)
    (h' : IsCondition ts e') : e = e' := by
  have stops : ¬ Continues (.joined .or) [] := by rintro (h | h) <;> cases h
  have same : ts ++ [] = ts ++ [] := rfl
  exact (h.unique_prefix h' same stops stops).1

end SchemaFilter.Sql
