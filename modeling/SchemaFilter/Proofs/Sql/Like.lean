import Mathlib.Data.List.Infix
import SchemaFilter.Text.Folded

/-!
# Patterns of LIKE

In a pattern of `LIKE` a percent sign stands for any run of characters and an underscore for any single
one. Every other character stands for itself, case aside. A pattern matches whole texts.

A text in which neither sign occurs matches what it folds alike with and nothing else; only of such
texts is this true, because a sign also matches other characters than itself.
-/

namespace SchemaFilter.Sql

open Text

/-- The sign for any run of characters. -/
def anyRun : Char := '%'

/-- The sign for any single character. -/
def anyOne : Char := '_'

def like : (pattern text : List Char) → Bool
  | [], text => text.isEmpty
  | c :: pattern, text =>
    if c = anyRun then text.tails.any (like pattern)
    else match text with
      | [] => false
      | d :: rest => (c == anyOne || Unicode.fold c == Unicode.fold d) && like pattern rest

variable {pattern text : List Char} {c : Char}

theorem like_nil_iff : like [] text = true ↔ text = [] := by
  simp [like]

/-- A run may be as long as the rest of the pattern leaves it. -/
theorem like_anyRun_cons_iff : like (anyRun :: pattern) text = true ↔
    ∃ run rest, text = run ++ rest ∧ like pattern rest = true := by
  simp only [like, if_true, List.any_eq_true, List.mem_tails]
  constructor
  · rintro ⟨rest, ⟨run, split⟩, h⟩
    exact ⟨run, rest, split.symm, h⟩
  · rintro ⟨run, rest, split, h⟩
    exact ⟨rest, ⟨run, split.symm⟩, h⟩

/-- Any other character of a pattern takes one character of the text. -/
theorem like_cons_iff (other : c ≠ anyRun) : like (c :: pattern) text = true ↔
    ∃ d rest, text = d :: rest ∧ (c = anyOne ∨ Unicode.fold c = Unicode.fold d) ∧
      like pattern rest = true := by
  cases text <;> simp [like, other]

theorem like_append_iff {first second : List Char} : like (first ++ second) text = true ↔
    ∃ front back, text = front ++ back ∧ like first front = true ∧ like second back = true := by
  induction first generalizing text with
  | nil => simp [like_nil_iff]
  | cons c first ih =>
    rw [List.cons_append]
    by_cases run : c = anyRun
    · subst run
      simp only [like_anyRun_cons_iff, ih]
      constructor
      · rintro ⟨run, _, rfl, front, back, rfl, hfront, hback⟩
        exact ⟨run ++ front, back, by simp, ⟨run, front, rfl, hfront⟩, hback⟩
      · rintro ⟨_, back, rfl, ⟨run, front, rfl, hfront⟩, hback⟩
        exact ⟨run, front ++ back, by simp, front, back, rfl, hfront, hback⟩
    · simp only [like_cons_iff run, ih]
      constructor
      · rintro ⟨d, _, rfl, hd, front, back, rfl, hfront, hback⟩
        exact ⟨d :: front, back, rfl, ⟨d, front, rfl, hd, hfront⟩, hback⟩
      · rintro ⟨_, back, rfl, ⟨d, front, rfl, hd, hfront⟩, hback⟩
        exact ⟨d, front ++ back, rfl, hd, front, back, rfl, hfront, hback⟩

/-- A run at the end matches whatever there is. -/
theorem like_anyRun : like [anyRun] text = true :=
  like_anyRun_cons_iff.2 ⟨text, [], by simp, rfl⟩

/-! ## Literals -/

/-- Whether no character of a text is a sign with a meaning of its own. -/
def IsLiteral (part : List Char) : Prop :=
  anyRun ∉ part ∧ anyOne ∉ part

theorem isLiteral_cons {part : List Char} :
    IsLiteral (c :: part) ↔ (c ≠ anyRun ∧ c ≠ anyOne) ∧ IsLiteral part := by
  simp only [IsLiteral, List.mem_cons, not_or, ne_comm (a := c), ne_eq]
  tauto

/-- A sign matches itself as every other character does, so what folds alike with a text matches it as
a pattern. -/
theorem like_of_folded_eq {part : List Char} (h : folded text = folded part) :
    like part text = true := by
  induction part generalizing text with
  | nil => exact like_nil_iff.2 (List.map_eq_nil_iff.1 h)
  | cons c part ih =>
    obtain ⟨d, rest, rfl, hd, hrest⟩ := List.map_eq_cons_iff.1 h
    by_cases run : c = anyRun
    · subst run
      exact like_anyRun_cons_iff.2 ⟨[d], rest, rfl, ih hrest⟩
    · exact (like_cons_iff run).2 ⟨d, rest, rfl, .inr hd.symm, ih hrest⟩

/-- A literal matches nothing but what folds alike with it. -/
theorem IsLiteral.like_iff {part : List Char} (literal : IsLiteral part) :
    like part text = true ↔ folded text = folded part := by
  refine ⟨fun h => ?_, like_of_folded_eq⟩
  induction part generalizing text with
  | nil => rw [like_nil_iff.1 h]
  | cons c part ih =>
    obtain ⟨⟨noRun, noOne⟩, others⟩ := isLiteral_cons.1 literal
    obtain ⟨d, rest, rfl, hd, hrest⟩ := (like_cons_iff noRun).1 h
    have same : Unicode.fold c = Unicode.fold d := hd.resolve_left noOne
    rw [folded, List.map_cons, ← same]
    exact congrArg _ (ih others hrest)

/-- A text with another character, which folds differently, in place of every sign. -/
def unsigned (part : List Char) : List Char :=
  part.map fun c => if c = anyRun ∨ c = anyOne then 'x' else c

theorem like_unsigned (part : List Char) : like part (unsigned part) = true := by
  induction part with
  | nil => rfl
  | cons c part ih =>
    rw [unsigned, List.map_cons]
    by_cases run : c = anyRun
    · subst run
      exact like_anyRun_cons_iff.2 ⟨[_], _, rfl, ih⟩
    · refine (like_cons_iff run).2 ⟨_, _, rfl, ?_, ih⟩
      by_cases one : c = anyOne
      · exact .inl one
      · simp [run, one]

/-- Without its signs a text folds alike only with a literal. -/
theorem isLiteral_of_folded_unsigned {part : List Char}
    (h : folded (unsigned part) = folded part) : IsLiteral part := by
  have same : ∀ c ∈ part, c ≠ anyRun ∧ c ≠ anyOne := by
    intro c hc
    have equal : Unicode.fold (if c = anyRun ∨ c = anyOne then 'x' else c) = Unicode.fold c := by
      simp only [folded, unsigned, List.map_map] at h
      exact List.map_inj_left.1 h c hc
    constructor
    · rintro rfl
      revert equal
      decide
    · rintro rfl
      revert equal
      decide
  exact ⟨fun h => (same _ h).1 rfl, fun h => (same _ h).2 rfl⟩

end SchemaFilter.Sql
