import SchemaFilter.Proofs.Sql.Token

/-!
# Phrases

A phrase is a part of a clause: a text that spells tokens, which read as an expression at some level
of the grammar and have placeholders for certain values. Binding the values fills the placeholders
from left to right, and what follows the phrase gets the values that follow.

Tests are phrases, and phrases that are joined or put in parentheses make larger ones, so the text
of a clause is one as soon as it is put together in these ways.
-/

namespace SchemaFilter.Sql

/-- What operands are taken for: for themselves, or for nothing, which leaves placeholders. -/
abbrev Filling := Value → Option Value

def blank : Filling := fun _ => none

@[simp] theorem blank_apply (v : Value) : blank v = none := rfl

/-- Tokens with values bound to their placeholders, from left to right. -/
def bound : List Token → List Value → List Token
  | .operand none :: rest, v :: values => .operand (some v) :: bound rest values
  | t :: rest, values => t :: bound rest values
  | [], _ => []

/-- Whether a token is no operand, so that it stays as it is when values are bound. -/
def Token.IsFixed : Token → Prop
  | operand _ => False
  | _ => True

theorem bound_cons_of_isFixed {t : Token} (h : t.IsFixed) (rest : List Token)
    (values : List Value) : bound (t :: rest) values = t :: bound rest values := by
  cases t with
  | operand v => cases h
  | _ => rfl

/-- Whether tokens take certain values and leave those that follow to the tokens that follow. -/
def Binds (ts : Filling → List Token) (values : List Value) : Prop :=
  ∀ rest more, bound (ts blank ++ rest) (values ++ more) = ts some ++ bound rest more

namespace Binds

variable {ts us : Filling → List Token} {values values' : List Value}

theorem nil : Binds (fun _ => []) [] := fun _ _ => rfl

theorem fixed {t : Token} (h : t.IsFixed) (following : Binds ts values) :
    Binds (fun write => t :: ts write) values := by
  intro rest more
  rw [List.cons_append, bound_cons_of_isFixed h, following, List.cons_append]

theorem constant {ts : List Token} (h : ∀ t ∈ ts, t.IsFixed) : Binds (fun _ => ts) [] := by
  induction ts with
  | nil => exact nil
  | cons t rest ih =>
    rw [List.forall_mem_cons] at h
    exact (ih h.2).fixed h.1

theorem operand (v : Value) (following : Binds ts values) :
    Binds (fun write => .operand (write v) :: ts write) (v :: values) := by
  intro rest more
  change _ :: bound (ts blank ++ rest) (values ++ more) = _
  rw [following, List.cons_append]

theorem append (first : Binds ts values) (second : Binds us values') :
    Binds (fun write => ts write ++ us write) (values ++ values') := by
  intro rest more
  rw [List.append_assoc, List.append_assoc, first, second, List.append_assoc]

theorem enclosed (h : Binds ts values) :
    Binds (fun write => .opening :: (ts write ++ [.closing])) values := by
  have closing : Binds (fun _ => [.closing]) [] := constant (by simp [Token.IsFixed])
  have both := (h.append closing).fixed (t := .opening) trivial
  rwa [List.append_nil] at both

theorem listed (values : List Value) : Binds (fun write => listed (values.map write)) values := by
  induction values with
  | nil => exact nil
  | cons v rest ih =>
    cases rest with
    | nil => exact nil.operand v
    | cons w rest => exact (ih.fixed (t := .comma) trivial).operand v

end Binds

theorem spells_listed {values : List Value} (some : values ≠ []) :
    Spells (listed (values.map blank)) (", ".intercalate (values.map fun _ => "?")) := by
  induction values with
  | nil => exact absurd rfl some
  | cons v rest ih =>
    cases rest with
    | nil => exact .token (.operand none)
    | cons w rest =>
      have both := (Spells.token (.operand none)).listed (ih (List.cons_ne_nil w rest))
      simp only [List.map_cons, String.intercalate_cons_cons]
      exact both

theorem isPlain_listed {values : List Value} {t : Token} (h : t ∈ listed (values.map blank)) :
    t.IsPlain := by
  induction values with
  | nil => cases h
  | cons v rest ih =>
    cases rest with
    | nil => rw [List.mem_singleton.1 h]; rfl
    | cons w rest =>
      simp only [List.map_cons, listed, List.mem_cons] at h ih
      obtain rfl | rfl | h := h
      · rfl
      · trivial
      · exact ih h

/-! ## Phrases -/

section

variable {α : Type} (ask : Filling → α → Test)

/-- A text and tokens that make a phrase. The tests of the expression are known up to the filling of
their operands. -/
structure IsPhrase (l : Level) (ts : Filling → List Token) (text : String) (values : List Value)
    (e : Expression α) : Prop where
  reads : ∀ write, Reads l (ts write) (e.map (ask write))
  spells : Spells (ts blank) text
  binds : Binds ts values
  plain : (∀ a ∈ e.tests, IsName (ask blank a).field) → ∀ t ∈ ts blank, t.IsPlain

/-- A text that makes a phrase with some tokens. -/
def Phrase (l : Level) (text : String) (values : List Value) (e : Expression α) : Prop :=
  ∃ ts, IsPhrase ask l ts text values e

/-- Texts that make primary phrases one by one, with the values of all of them. -/
inductive Phrases : List String → List Value → List (Expression α) → Prop where
  | nil : Phrases [] [] []
  | cons {text : String} {texts : List String} {values values' : List Value} {e : Expression α}
    {list : List (Expression α)} (head : Phrase ask .primary text values e)
    (tail : Phrases texts values' list) : Phrases (text :: texts) (values ++ values') (e :: list)

end

/-- The word of a connective as it stands between two texts. -/
def Connective.word : Connective → String
  | and => " AND "
  | or => " OR "

/-- The text of a connective that joins nothing. -/
def Connective.emptyText : Connective → String
  | and => "1=1"
  | or => "1=0"

namespace Phrase

variable {α : Type} {ask : Filling → α → Test} {k : Connective} {text text' : String}
  {values values' : List Value} {e f : Expression α}

theorem empty (k : Connective) : Phrase ask .primary k.emptyText [] (.constant k.neutral) := by
  have plain : ∀ t ∈ [Token.name "1", .sign .equal, .name "0"], t.IsPlain := by
    have digits : IsName "1" ∧ IsName "0" := by decide
    simpa [Token.IsPlain] using digits
  cases k with
  | and =>
    refine ⟨fun _ => [.name "1", .sign .equal, .name "1"], ?_⟩
    exact ⟨fun _ => .always, .close "1" "1" .equal, .constant (by simp [Token.IsFixed]),
      fun _ t ht => plain t (by grind)⟩
  | or =>
    refine ⟨fun _ => [.name "1", .sign .equal, .name "0"], ?_⟩
    exact ⟨fun _ => .never, .close "1" "0" .equal, .constant (by simp [Token.IsFixed]),
      fun _ t ht => plain t (by grind)⟩

theorem test (a : α) (ts : Filling → List Token)
    (reads : ∀ write, ReadsTest (.name (ask blank a).field :: ts write) (ask write a))
    (spells : Spells (ts blank) text) (binds : Binds ts values)
    (plain : ∀ t ∈ ts blank, t.IsPlain) :
    Phrase ask .primary ((ask blank a).field ++ " " ++ text) values (.test a) := by
  refine ⟨fun write => .name (ask blank a).field :: ts write, ?_⟩
  refine ⟨fun write => .test (reads write), .spaced (.token _) spells, binds.fixed trivial, ?_⟩
  intro names
  exact List.forall_mem_cons.2 ⟨names a (List.mem_singleton_self a), plain⟩

theorem single (h : Phrase ask k.inner text values e) : Phrase ask (.joined k) text values e := by
  obtain ⟨ts, h⟩ := h
  exact ⟨ts, fun write => .single (h.reads write), h.spells, h.binds, h.plain⟩

/-- A primary phrase may stand where phrases are joined. -/
theorem inner (k : Connective) (h : Phrase ask .primary text values e) :
    Phrase ask k.inner text values e := by
  cases k with
  | and => exact h
  | or => exact h.single

/-- Phrases that are joined may stand in parentheses, whatever joins them. -/
theorem outer (h : Phrase ask (.joined k) text values e) :
    Phrase ask (.joined .or) text values e := by
  cases k with
  | and => exact single (k := .or) h
  | or => exact h

theorem more (first : Phrase ask k.inner text values e)
    (second : Phrase ask (.joined k) text' values' f) :
    Phrase ask (.joined k) (text ++ k.word ++ text') (values ++ values') (.joined k e f) := by
  obtain ⟨ts, first⟩ := first
  obtain ⟨us, second⟩ := second
  have keyword : k.keyword.IsFixed ∧ k.keyword.IsPlain := by cases k <;> exact ⟨trivial, trivial⟩
  refine ⟨fun write => ts write ++ k.keyword :: us write,
    fun write => .more (first.reads write) (second.reads write), ?_,
    first.binds.append (second.binds.fixed keyword.1), ?_⟩
  · have word : k.word = " " ++ k.keyword.text ++ " " := by cases k <;> rfl
    have spelled := (first.spells.spaced (.token k.keyword)).spaced second.spells
    simpa [word, String.append_assoc] using spelled
  · intro names
    rw [Expression.tests, List.forall_mem_append] at names
    rw [List.forall_mem_append, List.forall_mem_cons]
    exact ⟨first.plain names.1, keyword.2, second.plain names.2⟩

theorem enclosed (h : Phrase ask (.joined .or) text values e) :
    Phrase ask .primary ("(" ++ text ++ ")") values e := by
  obtain ⟨ts, h⟩ := h
  refine ⟨fun write => .opening :: (ts write ++ [.closing]), fun write => .enclosed (h.reads write),
    .enclosed h.spells, h.binds.enclosed, ?_⟩
  intro names
  simpa [or_imp, forall_and, Token.IsPlain] using h.plain names

/-- A primary phrase with plain names reads as its expression. -/
theorem readsText (h : Phrase ask .primary text values e)
    (names : ∀ a ∈ e.tests, IsName (ask blank a).field) :
    ReadsText text (e.map (ask blank)) := by
  obtain ⟨ts, h⟩ := h
  exact ⟨ts blank, (h.spells.isCut (h.plain names)).tokens,
    .single (k := .or) (.single (k := .and) (h.reads blank))⟩

/-- With its values bound, a primary phrase reads as its expression with the values for operands. Its
tokens are in the text itself if names are plain. -/
theorem reads_bound (h : Phrase ask .primary text values e) :
    ∃ ts, Spells ts text ∧
      ((∀ a ∈ e.tests, IsName (ask blank a).field) → tokensOf? text.toList = some ts) ∧
      IsCondition (bound ts values) (e.map (ask some)) := by
  obtain ⟨ts, h⟩ := h
  have binds := h.binds [] []
  rw [List.append_nil, List.append_nil, bound, List.append_nil] at binds
  refine ⟨ts blank, h.spells, fun names => (h.spells.isCut (h.plain names)).tokens, ?_⟩
  rw [binds]
  exact .single (k := .or) (.single (k := .and) (h.reads some))

end Phrase

theorem Phrases.chain {α : Type} {ask : Filling → α → Test} (k : Connective) {texts : List String}
    {values : List Value} {list : List (Expression α)} (h : Phrases ask texts values list)
    (some : texts ≠ []) :
    Phrase ask (.joined k) (k.word.intercalate texts) values (.chain k list) := by
  induction h with
  | nil => exact absurd rfl some
  | cons head tail ih =>
    have first := head.inner k
    cases tail with
    | nil => simpa [Expression.chain] using first.single
    | cons head' tail' =>
      have joined := first.more (ih (by simp))
      rw [String.intercalate_cons_cons]
      exact joined

end SchemaFilter.Sql
