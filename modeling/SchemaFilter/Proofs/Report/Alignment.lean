import Mathlib.Data.List.Forall2
import SchemaFilter.Proofs.Report.TableLines

/-!
# Columns of a table

In a table without line breaks in its texts, every column starts at one offset in all lines: behind the
widths of the columns before it and two blanks for each of them. What is shown of a name or of a field
fits the column, which is as wide as the longest text in it and at most 24 characters wide; a longer
text is cut.
-/

namespace SchemaFilter.Report

/-- What is shown of a text: all of it, or its beginning and three points if it is too long. -/
inductive ShownAs (text : List Char) : List Char → Prop where
  | whole (h : text.length ≤ 24) : ShownAs text text
  | cut (h : 24 < text.length) : ShownAs text (text.take 21 ++ ['.', '.', '.'])

/-- A line shows a text in each column. What is shown fits the column and stands where the column
starts, with blanks up to the start of the next one. -/
def ShowsIn (columns : List String) (widths : String → Nat) (text : String → List Char)
    (line : List Char) : Prop :=
  ∀ before c after, columns = before ++ c :: after → ∃ shown, ShownAs (text c) shown ∧
    shown.length ≤ widths c ∧ StandsAt line (offset widths before) (widths c + 2) shown

/-- The lines of a table show the names of the columns and what the records have in them, in columns of
the same widths. A column is at most 24 characters wide, and some text in it is as long. -/
structure LinesUp (columns : List String) (records : List Value) (widths : String → Nat)
    (header : List Char) (rows : List (List Char)) : Prop where
  narrow : ∀ c ∈ columns, widths c ≤ 24
  filled : ∀ c ∈ columns, ∃ text shown, ShownAs text shown ∧ shown.length = widths c ∧
    (text = c.toList ∨ ∃ r ∈ records, text = cellText (r.field c))
  names : ShowsIn columns widths String.toList header
  cells : List.Forall₂ (fun r line => ShowsIn columns widths (fun c => cellText (r.field c)) line)
    records rows

variable {columns : List String} {records : List Value} {widths : String → Nat}
  {text : String → List Char}

theorem shownAs_truncated (text : List Char) : ShownAs text (truncated maxWidth text) := by
  rw [truncated]
  split
  · next long => exact .cut long
  · next short => exact .whole (Nat.le_of_not_lt short)

theorem showsIn_row (fits : ∀ c ∈ columns, (truncated maxWidth (text c)).length ≤ widths c) :
    ShowsIn columns widths text
      (row (columns.map widths) (columns.map fun c => truncated maxWidth (text c))) := by
  rintro before c after rfl
  exact ⟨_, shownAs_truncated (text c), fits c (by simp), standsAt_row fits⟩

theorem linesUp_table (columns : List String) (records : List Value) :
    LinesUp columns records (width records) (headerRow (columns.map (width records)) columns)
      (records.map fun r => row (columns.map (width records)) (columns.map (cell r))) where
  narrow c _ := width_le records c
  filled c _ := by
    rcases width_filled records c with name | ⟨r, hr, same⟩
    · exact ⟨_, _, shownAs_truncated c.toList, name.symm, .inl rfl⟩
    · exact ⟨_, _, shownAs_truncated (cellText (r.field c)), same.symm, .inr ⟨r, hr, rfl⟩⟩
  names := by
    rw [headerRow_eq]
    exact showsIn_row fun c _ => length_name_le_width records c
  cells := by
    rw [List.forall₂_map_right_iff, List.forall₂_same]
    exact fun r hr => showsIn_row fun c _ => length_cell_le_width hr

/-- The columns of a table line up if no name of a column and no text of a field in a column has a line
break: the lines between which the text is cut by its line breaks are the names, the records in their
order, an empty line and the counts, and each column starts at the same place in all of them. -/
theorem columns_line_up (some : records ≠ []) (names : ∀ c ∈ columns, '\n' ∉ c.toList)
    (texts : ∀ r ∈ records, ∀ c ∈ columns, '\n' ∉ cellText (r.field c)) (matched total : Nat) :
    ∃ widths header rows,
      Text.lines (recordsTable false columns matched total records).toList =
        header :: (rows ++ [[], (summary records.length matched total).toList]) ∧
      LinesUp columns records widths header rows := by
  have unbroken : UnbrokenTable columns records :=
    unbrokenTable_of_forall names fun r hr c hc s hs => by
      have shown := texts r hr c hc
      rwa [hs] at shown
  refine ⟨_, _, _, ?_, linesUp_table columns records⟩
  rw [lines_recordsTable some unbroken, tableLines, dimmed, if_neg Bool.false_ne_true,
    String.toList_ofList]

/-- A long name and a long text are cut to the same width, a short row ends before the second column,
and characters are counted, not bytes. -/
theorem columns_line_up_of_cities :
    let columns := ["city", "the description of the place"]
    let records : List Value := [
      .object [("city", .string "Zürich"), ("the description of the place", .string "")],
      .object [("the description of the place", .string "on the banks of the Limmat")]]
    records ≠ [] ∧ (∀ c ∈ columns, '\n' ∉ c.toList) ∧
      (∀ r ∈ records, ∀ c ∈ columns, '\n' ∉ cellText (r.field c)) ∧
      (∃ widths header rows,
        Text.lines (recordsTable false columns 2 3 records).toList =
          header :: (rows ++ [[], (summary 2 2 3).toList]) ∧
        LinesUp columns records widths header rows) ∧
      Text.lines (recordsTable false columns 2 3 records).toList =
        ["city    the description of th...".toList, "Zürich".toList,
          "-       on the banks of the L...".toList, [], "2 of 3 record(s) matched".toList] := by
  intro columns records
  have some : records ≠ [] := by simp [records]
  have names : ∀ c ∈ columns, '\n' ∉ c.toList := by decide
  have texts : ∀ r ∈ records, ∀ c ∈ columns, '\n' ∉ cellText (r.field c) := by decide
  exact ⟨some, names, texts, columns_line_up some names texts 2 3, by decide +kernel⟩

end SchemaFilter.Report
