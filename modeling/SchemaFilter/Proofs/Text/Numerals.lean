import Mathlib.Data.List.Basic

/-!
# Numerals

The decimal digits of a number determine it, also in front of a mark that is no digit.
-/

namespace SchemaFilter.Text

theorem isDigit_of_mem_numeral {n : Nat} {c : Char} (h : c ∈ (toString n).toList) :
    c.isDigit = true := by
  rw [Nat.toString_eq_repr, Nat.toList_repr] at h
  exact Nat.isDigit_of_mem_toDigits (by decide) (by decide) h

theorem not_mem_numeral {c : Char} (h : c.isDigit = false) (n : Nat) : c ∉ (toString n).toList :=
  fun hc => Bool.false_ne_true (h.symm.trans (isDigit_of_mem_numeral hc))

theorem numeral_injective {i j : Nat} (h : (toString i).toList = (toString j).toList) : i = j := by
  rw [Nat.toString_eq_repr, Nat.toString_eq_repr, Nat.toList_repr, Nat.toList_repr] at h
  simpa using congrArg (fun digits => Nat.ofDigitChars 10 digits 0) h

/-- Fronts of two texts that end at the same mark, which they do not contain, are the same. -/
theorem prefix_of_marked {α : Type} {mark : α} {front front' back back' : List α}
    (h : mark ∉ front) (h' : mark ∉ front')
    (le : front ++ mark :: back <+: front' ++ mark :: back') :
    front = front' ∧ back <+: back' := by
  induction front generalizing front' with
  | nil =>
    cases front' with
    | nil => exact ⟨rfl, (List.cons_prefix_cons.1 le).2⟩
    | cons a rest => exact absurd (List.cons_prefix_cons.1 le).1 (List.ne_of_not_mem_cons h')
  | cons a rest ih =>
    cases front' with
    | nil => exact absurd (List.cons_prefix_cons.1 le).1.symm (List.ne_of_not_mem_cons h)
    | cons b rest' =>
      obtain ⟨rfl, tail⟩ := List.cons_prefix_cons.1 le
      obtain ⟨rfl, behind⟩ :=
        ih (List.not_mem_of_not_mem_cons h) (List.not_mem_of_not_mem_cons h') tail
      exact ⟨rfl, behind⟩

/-- A numeral in front of a mark can be read, and what follows it too. -/
theorem numeral_append_injective {mark : Char} (h : mark.isDigit = false) {i j : Nat}
    {rest rest' : List Char}
    (same : (toString i).toList ++ mark :: rest = (toString j).toList ++ mark :: rest') :
    i = j ∧ rest = rest' := by
  obtain ⟨numerals, -⟩ := prefix_of_marked (not_mem_numeral h i) (not_mem_numeral h j)
    ⟨[], by rw [List.append_nil, same]⟩
  rw [numerals, List.append_cancel_left_eq] at same
  exact ⟨numeral_injective numerals, (List.cons.inj same).2⟩

end SchemaFilter.Text
