import Mathlib.Algebra.GroupWithZero.Nat
import Mathlib.Data.List.DropRight
import SchemaFilter.Text.Blank
import SchemaFilter.Text.Pieces

/-!
# Lines

A line of a text ends with a line break. Lines that are written one after the other are read back as
they are if none of them has a line break in it; otherwise more lines are read than have been
written.

Removing the blanks at the end of a line leaves a part of the line that blanks complete.
-/

namespace SchemaFilter.Text

/-! ## Pieces -/

section Pieces

variable {separator : Char} {piece : List Char}

theorem pieces_append (h : separator ∉ piece) (rest : List Char) :
    pieces separator (piece ++ separator :: rest) = piece :: pieces separator rest := by
  induction piece with
  | nil => rw [List.nil_append, pieces, if_pos rfl]
  | cons c piece ih =>
    have other : c ≠ separator := (List.ne_of_not_mem_cons h).symm
    rw [List.cons_append, pieces, if_neg other, ih (List.not_mem_of_not_mem_cons h)]

theorem length_pieces (separator : Char) (cs : List Char) :
    (pieces separator cs).length = cs.count separator + 1 := by
  induction cs with
  | nil => rfl
  | cons c cs ih =>
    rw [pieces, List.count_cons]
    split
    · next same => simp [same, ih]
    · next other =>
      cases hp : pieces separator cs with
      | nil => exact absurd hp (pieces_ne_nil separator cs)
      | cons piece others =>
        rw [hp] at ih
        simpa [other] using ih

end Pieces

/-! ## Lines -/

/-- The lines of a text. What follows the last line break is no line. -/
def lines (cs : List Char) : List (List Char) :=
  (pieces '\n' cs).dropLast

def written (lines : List (List Char)) : List Char :=
  lines.flatMap (· ++ ['\n'])

variable {line : List Char} {ls : List (List Char)}

theorem length_lines (cs : List Char) : (lines cs).length = cs.count '\n' := by
  rw [lines, List.length_dropLast, length_pieces, Nat.add_sub_cancel]

theorem lines_append (h : '\n' ∉ line) (rest : List Char) :
    lines (line ++ '\n' :: rest) = line :: lines rest := by
  rw [lines, pieces_append h, List.dropLast_cons_of_ne_nil (pieces_ne_nil _ _), lines]

/-- Lines without a line break are read back as they have been written. -/
theorem lines_written (h : ∀ line ∈ ls, '\n' ∉ line) : lines (written ls) = ls := by
  induction ls with
  | nil => rfl
  | cons line ls ih =>
    obtain ⟨first, others⟩ := List.forall_mem_cons.1 h
    have split : written (line :: ls) = line ++ '\n' :: written ls := by simp [written]
    rw [split, lines_append first, ih others]

theorem length_lines_written (ls : List (List Char)) :
    (lines (written ls)).length = ls.length + (ls.map (·.count '\n')).sum := by
  rw [length_lines]
  induction ls with
  | nil => rfl
  | cons line ls ih =>
    simp only [written, List.flatMap_cons, List.count_append, List.length_cons, List.map_cons,
      List.sum_cons] at ih ⊢
    rw [ih]
    have one : List.count '\n' ['\n'] = 1 := rfl
    omega

/-- As many lines are read as have been written exactly if none of them has a line break. -/
theorem length_lines_written_eq_iff :
    (lines (written ls)).length = ls.length ↔ ∀ line ∈ ls, '\n' ∉ line := by
  rw [length_lines_written, Nat.add_eq_left, List.sum_eq_zero_iff_forall_eq_nat]
  simp [List.count_eq_zero]

/-! ## Trailing blanks -/

/-- Blanks complete what has been trimmed. -/
theorem exists_trimEnd_append (cs : List Char) :
    ∃ blanks, (∀ c ∈ blanks, isBlank c = true) ∧ trimEnd cs ++ blanks = cs :=
  ⟨cs.rtakeWhile isBlank, fun _ hc => List.mem_rtakeWhile_imp hc,
    List.rdropWhile_append_rtakeWhile⟩

theorem mem_of_mem_trimEnd {c : Char} {cs : List Char} (h : c ∈ trimEnd cs) : c ∈ cs :=
  (List.rdropWhile_prefix isBlank cs).subset h

theorem trimEnd_append {blanks : List Char} (h : ∀ c ∈ blanks, isBlank c = true)
    (cs : List Char) : trimEnd (cs ++ blanks) = trimEnd cs := by
  rw [trimEnd, List.reverse_append,
    List.dropWhile_append_of_pos fun c hc => h c (List.mem_reverse.1 hc), trimEnd]

/-- It does not matter if some blanks are left out before a text is trimmed or afterwards. -/
theorem trimEnd_filter {keep : Char → Bool} (h : ∀ c, keep c = false → isBlank c = true)
    (cs : List Char) : trimEnd (cs.filter keep) = (trimEnd cs).filter keep := by
  have blank (c : Char) : (!keep c || isBlank c) = isBlank c := by
    cases kept : keep c with
    | false => simp [h c kept]
    | true => rfl
  rw [trimEnd, trimEnd, ← List.filter_reverse, List.dropWhile_filter, List.filter_reverse]
  simp only [blank]

end SchemaFilter.Text
