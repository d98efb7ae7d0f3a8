import SchemaFilter.Proofs.Text.Lines
import SchemaFilter.Report.Records

/-!
# Rows of a table

Blanks at the end complete a row to its fields one after the other, each of them the text of a cell with
blanks up to the width of the column and two more. This needs that every cell fits its column, and the
width of a column is the length of the longest text that is shown in it: of its cells and of its name,
which are cut alike.
-/

namespace SchemaFilter.Report

/-! ## Widths -/

section Widths

variable {records : List Value} {record : Value} {column : String}

theorem foldl_max_spec (start : Nat) (ns : List Nat) :
    ns.foldl max start ∈ start :: ns ∧ ∀ n ∈ start :: ns, n ≤ ns.foldl max start :=
  List.max?_eq_some_iff.1 List.max?_cons'

theorem length_cell_le (record : Value) (column : String) :
    (cell record column).length ≤ maxWidth := by
  rw [cell, length_truncated (by decide)]
  exact Nat.min_le_left ..

theorem width_le (records : List Value) (column : String) : width records column ≤ maxWidth :=
  Nat.min_le_left ..

theorem length_cell_le_width (h : record ∈ records) :
    (cell record column).length ≤ width records column :=
  Nat.le_min.2 ⟨length_cell_le record column,
    (foldl_max_spec _ _).2 _ (List.mem_cons_of_mem _ (List.mem_map_of_mem h))⟩

theorem length_name_le_width (records : List Value) (column : String) :
    (truncated maxWidth column.toList).length ≤ width records column := by
  have longest := (foldl_max_spec column.length
    (records.map fun r => (cell r column).length)).2 _ List.mem_cons_self
  rw [length_truncated (by decide), String.length_toList, width]
  omega

/-- A column is not wider than the longest text in it. -/
theorem width_filled (records : List Value) (column : String) :
    width records column = (truncated maxWidth column.toList).length ∨
      ∃ record ∈ records, width records column = (cell record column).length := by
  have longest := (foldl_max_spec column.length
    (records.map fun r => (cell r column).length)).1
  rw [length_truncated (by decide), String.length_toList, width]
  rcases List.mem_cons.1 longest with name | some
  · exact .inl (by rw [name])
  · obtain ⟨record, hrecord, length⟩ := List.mem_map.1 some
    have short := length_cell_le record column
    exact .inr ⟨record, hrecord, by omega⟩

/-- The names in the first line are cut as cells are. -/
theorem truncated_width (records : List Value) (column : String) :
    truncated (width records column) column.toList = truncated maxWidth column.toList := by
  have fits := length_name_le_width records column
  have narrow := width_le records column
  rw [length_truncated (by decide)] at fits
  by_cases short : column.toList.length ≤ width records column
  · rw [truncated_of_length_le short, truncated_of_length_le (Nat.le_trans short narrow)]
  · have full : width records column = maxWidth := by omega
    rw [full]

theorem headerRow_eq (records : List Value) (columns : List String) :
    headerRow (columns.map (width records)) columns =
      row (columns.map (width records)) (columns.map fun c => truncated maxWidth c.toList) := by
  rw [headerRow, List.zipWith_map_left, List.zipWith_self]
  simp only [truncated_width]

end Widths

/-! ## Fields -/

section Fields

variable {columns : List String} {widths : String → Nat} {cells : String → List Char}

theorem padded_add {width : Nat} {cs : List Char} (h : cs.length ≤ width) (gap : Nat) :
    padded (width + gap) cs = padded width cs ++ List.replicate gap ' ' := by
  rw [padded, padded, List.append_assoc, ← List.replicate_add]
  congr 2
  omega

theorem intercalate_append_gap {gap : List Char} {texts : List (List Char)} (h : texts ≠ []) :
    gap.intercalate texts ++ gap = texts.flatMap (· ++ gap) := by
  induction texts with
  | nil => exact absurd rfl h
  | cons text rest ih =>
    cases rest with
    | nil => simp
    | cons next rest =>
      rw [List.intercalate_cons_cons, List.append_assoc, List.append_assoc, ih (by simp)]
      exact (List.append_assoc text gap _).symm

theorem row_eq_trimEnd (fits : ∀ c ∈ columns, (cells c).length ≤ widths c) :
    row (columns.map widths) (columns.map cells) =
      Text.trimEnd (columns.flatMap fun c => padded (widths c + 2) (cells c)) := by
  have zipped : List.zipWith padded (columns.map widths) (columns.map cells) =
      columns.map fun c => padded (widths c) (cells c) := by
    rw [List.zipWith_map, List.zipWith_self]
  rw [row, zipped]
  cases columns with
  | nil => rfl
  | cons first rest =>
    have gap : ∀ c ∈ [' ', ' '], Text.isBlank c = true := List.all_eq_true.1 rfl
    rw [← Text.trimEnd_append gap, intercalate_append_gap (by simp), List.flatMap_map]
    congr 1
    exact List.flatMap_congr fun c hc => (padded_add (fits c hc) 2).symm

/-- A line has a text at an offset. It goes on there with the text and then with blanks up to a width,
where white space may be missing at the end of the line. -/
def StandsAt (line : List Char) (offset width : Nat) (text : List Char) : Prop :=
  ∃ blanks, (∀ b ∈ blanks, Text.isBlank b = true) ∧
    padded width text <+: (line ++ blanks).drop offset

/-- Where the column behind some others starts. -/
def offset (widths : String → Nat) (before : List String) : Nat :=
  (before.map fun c => widths c + 2).sum

theorem length_fields (fits : ∀ c ∈ columns, (cells c).length ≤ widths c) :
    (columns.flatMap fun c => padded (widths c + 2) (cells c)).length = offset widths columns := by
  rw [List.length_flatMap, offset]
  congr 1
  refine List.map_congr_left fun c hc => ?_
  have fit := fits c hc
  rw [length_padded]
  omega

theorem standsAt_row {before after : List String} {column : String}
    (fits : ∀ c ∈ before ++ column :: after, (cells c).length ≤ widths c) :
    StandsAt (row ((before ++ column :: after).map widths) ((before ++ column :: after).map cells))
      (offset widths before) (widths column + 2) (cells column) := by
  obtain ⟨blanks, blank, completed⟩ := Text.exists_trimEnd_append
    ((before ++ column :: after).flatMap fun c => padded (widths c + 2) (cells c))
  refine ⟨blanks, blank, ?_⟩
  have front := length_fields fun c hc => fits c (List.mem_append_left _ hc)
  rw [row_eq_trimEnd fits, completed, List.flatMap_append, List.flatMap_cons, ← front, List.drop_left]
  exact List.prefix_append ..

/-- A row has a line break exactly if its cells, one after the other, have one that does not belong to
the white space at their end. -/
theorem newline_mem_row_iff (fits : ∀ c ∈ columns, (cells c).length ≤ widths c) :
    '\n' ∈ row (columns.map widths) (columns.map cells) ↔
      '\n' ∈ Text.trimEnd (columns.flatMap cells) := by
  -- the fields have the characters of the cells and spaces, and no space is a line break
  let keep (c : Char) : Bool := c != ' '
  have blank : ∀ c, keep c = false → Text.isBlank c = true := by
    intro c hc
    have space : c = ' ' := by simpa [keep] using hc
    rw [space]
    rfl
  have kept (cs : List Char) : '\n' ∈ cs ↔ '\n' ∈ cs.filter keep := by simp [keep]
  have same : (columns.flatMap fun c => padded (widths c + 2) (cells c)).filter keep =
      (columns.flatMap cells).filter keep := by
    rw [List.filter_flatMap, List.filter_flatMap]
    refine List.flatMap_congr fun c _ => ?_
    simp [padded, keep]
  rw [row_eq_trimEnd fits, kept, ← Text.trimEnd_filter blank, same, Text.trimEnd_filter blank,
    ← kept]

end Fields

end SchemaFilter.Report
