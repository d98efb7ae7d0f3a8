import SchemaFilter.Proofs.Json.OneLine
import SchemaFilter.Proofs.Report.Rows

/-!
# Lines of a table

A table of records is written as the names of its columns, a line for each record, an empty line and the
counts. It is read back like that exactly if no text that is shown has a line break before the white
space at the end of its line. Only names and strings that a record has in a column itself can break
a line: all else is shown as JSON, which is one line.
-/

namespace SchemaFilter.Report

def tableLines (colored : Bool) (columns : List String) (matched total : Nat)
    (records : List Value) : List (List Char) :=
  let widths := columns.map (width records)
  (dimmed colored (String.ofList (headerRow widths columns))).toList ::
    ((records.map fun r => row widths (columns.map (cell r))) ++
      [[], (summary records.length matched total).toList])

/-- Whether what stands in the columns of a line has no line break before the white space at the end of
the line. -/
def Unbroken (columns : List String) (cells : String → List Char) : Prop :=
  '\n' ∉ Text.trimEnd (columns.flatMap cells)

/-- Whether the names of the columns and the cells of the records do not break their lines. -/
structure UnbrokenTable (columns : List String) (records : List Value) : Prop where
  names : Unbroken columns fun c => truncated maxWidth c.toList
  cells : ∀ r ∈ records, Unbroken columns (cell r)

variable {colored : Bool} {columns : List String} {matched total : Nat} {records : List Value}

theorem toList_recordsTable (some : records ≠ []) :
    (recordsTable colored columns matched total records).toList =
      Text.written (tableLines colored columns matched total records) := by
  rw [recordsTable, if_neg (by simpa using some)]
  simp [tableLines, Text.written, String.toList_join, List.flatMap_map]

theorem newline_mem_dimmed {s : String} : '\n' ∈ (dimmed colored s).toList ↔ '\n' ∈ s.toList := by
  cases colored with
  | false => rfl
  | true => simp [dimmed, escaped]

theorem newline_not_mem_summary (shown matched total : Nat) :
    '\n' ∉ (summary shown matched total).toList := by
  have numeral (n : Nat) : '\n' ∉ (toString n).toList := Text.not_mem_numeral rfl n
  rw [summary]
  split <;> simp only [String.toList_append, List.mem_append, not_or, numeral, not_false_eq_true,
    true_and] <;> decide

/-- No line of a table has a line break if and only if nothing that is shown breaks its line. -/
theorem forall_tableLines_iff : (∀ line ∈ tableLines colored columns matched total records,
    '\n' ∉ line) ↔ UnbrokenTable columns records := by
  have header : '\n' ∈ headerRow (columns.map (width records)) columns ↔
      ¬Unbroken columns fun c => truncated maxWidth c.toList := by
    rw [headerRow_eq, newline_mem_row_iff fun c _ => length_name_le_width records c, Unbroken,
      not_not]
  have line (r : Value) (hr : r ∈ records) :
      '\n' ∉ row (columns.map (width records)) (columns.map (cell r)) ↔
        Unbroken columns (cell r) := by
    rw [newline_mem_row_iff fun c _ => length_cell_le_width hr, Unbroken]
  simp only [tableLines, List.forall_mem_cons, List.forall_mem_append, List.forall_mem_map,
    newline_mem_dimmed, String.toList_ofList, header, not_not]
  constructor
  · rintro ⟨names, cells, -⟩
    exact ⟨names, fun r hr => (line r hr).1 (cells r hr)⟩
  · rintro ⟨names, cells⟩
    exact ⟨names, fun r hr => (line r hr).2 (cells r hr), by simp,
      newline_not_mem_summary records.length matched total, by simp⟩

/-! ## Texts that are shown -/

theorem newline_not_mem_truncated {cs : List Char} (h : '\n' ∉ cs) (limit : Nat) :
    '\n' ∉ truncated limit cs := by
  rw [truncated]
  split
  · have taken : '\n' ∉ cs.take (limit - 3) := fun hc => h (List.mem_of_mem_take hc)
    simp [taken]
  · exact h

/-- Only a string is shown as it is. -/
theorem newline_not_mem_cellText {v : Value} (h : ∀ s, v = .string s → '\n' ∉ s.toList) :
    '\n' ∉ cellText v := by
  cases v with
  | null => decide
  | string s => exact h s rfl
  | bool b => exact Json.newline_not_mem_print _
  | number n => exact Json.newline_not_mem_print _
  | array items => exact Json.newline_not_mem_print _
  | object members => exact Json.newline_not_mem_print _

theorem unbroken_of_forall {cells : String → List Char} (h : ∀ c ∈ columns, '\n' ∉ cells c) :
    Unbroken columns cells := by
  intro broken
  obtain ⟨c, hc, inside⟩ := List.mem_flatMap.1 (Text.mem_of_mem_trimEnd broken)
  exact h c hc inside

/-- A table is not broken if neither the names of its columns nor the strings in them have a line
break. -/
theorem unbrokenTable_of_forall (names : ∀ c ∈ columns, '\n' ∉ c.toList)
    (strings : ∀ r ∈ records, ∀ c ∈ columns, ∀ s, r.field c = .string s → '\n' ∉ s.toList) :
    UnbrokenTable columns records where
  names := unbroken_of_forall fun c hc => newline_not_mem_truncated (names c hc) maxWidth
  cells r hr := unbroken_of_forall fun c hc =>
    newline_not_mem_truncated (newline_not_mem_cellText (strings r hr c hc)) maxWidth

/-! ## Reading lines back -/

theorem length_tableLines :
    (tableLines colored columns matched total records).length = records.length + 3 := by
  simp [tableLines]

theorem lines_recordsTable (some : records ≠ []) (unbroken : UnbrokenTable columns records) :
    Text.lines (recordsTable colored columns matched total records).toList =
      tableLines colored columns matched total records := by
  rw [toList_recordsTable some]
  exact Text.lines_written (forall_tableLines_iff.2 unbroken)

theorem lt_length_lines_recordsTable (some : records ≠ [])
    (broken : ¬UnbrokenTable columns records) :
    records.length + 3 <
      (Text.lines (recordsTable colored columns matched total records).toList).length := by
  have count := Text.length_lines_written (tableLines colored columns matched total records)
  have more : (Text.lines (Text.written
      (tableLines colored columns matched total records))).length ≠ records.length + 3 := by
    rw [← length_tableLines]
    exact fun equal => broken
      (forall_tableLines_iff.1 (Text.length_lines_written_eq_iff.1 equal))
  rw [length_tableLines] at count
  rw [toList_recordsTable some]
  omega

/-- A table of some records has a line with the names of its columns, one line for each record in their
order, an empty line and one with the counts, and no other line, if nothing that is shown breaks its
line. Otherwise it has more lines. A table is not broken if there is no line break in the names of
the columns and in the strings that the records have in them. -/
theorem lines_of_table (some : records ≠ []) (columns : List String) (matched total : Nat) :
    (UnbrokenTable columns records →
      Text.lines (recordsTable false columns matched total records).toList =
          tableLines false columns matched total records ∧
        (tableLines false columns matched total records).length = records.length + 3) ∧
    (¬UnbrokenTable columns records → records.length + 3 <
      (Text.lines (recordsTable false columns matched total records).toList).length) ∧
    ((∀ c ∈ columns, '\n' ∉ c.toList) →
      (∀ r ∈ records, ∀ c ∈ columns, ∀ s, r.field c = .string s → '\n' ∉ s.toList) →
        UnbrokenTable columns records) := by
  refine ⟨fun unbroken => ?_, lt_length_lines_recordsTable some, unbrokenTable_of_forall⟩
  exact ⟨lines_recordsTable some unbroken, length_tableLines⟩

/-- A line break inside a list is escaped, and one at the end of a line is trimmed. -/
theorem lines_of_table_of_notes :
    let record : Value := .object [("a", .array [.string "x\ny"]), ("b", .string "z\n")]
    [record] ≠ [] ∧ UnbrokenTable ["a", "b"] [record] ∧
      Text.lines (recordsTable false ["a", "b"] 1 2 [record]).toList =
        ["a         b".toList, "[\"x\\ny\"]  z".toList, [], "1 of 2 record(s) matched".toList] := by
  intro record
  have some : [record] ≠ [] := by simp
  have unbroken : UnbrokenTable ["a", "b"] [record] :=
    ⟨by rw [Unbroken]; decide +kernel, by simp only [Unbroken]; decide +kernel⟩
  have lines := ((lines_of_table some ["a", "b"] 1 2).1 unbroken).1
  exact ⟨some, unbroken, lines.trans (by decide +kernel)⟩

/-- A line break in a string of a record ends the line of the record in its middle. -/
theorem table_line_broken_by_string :
    let record : Value := .object [("a", .string "line\nbreak"), ("b", .number (.integer 1))]
    Text.lines (recordsTable false ["a", "b"] 1 1 [record]).toList =
        ["a           b".toList, "line".toList, "break  1".toList, [],
          "1 of 1 record(s) matched".toList] ∧
      ¬∀ (columns : List String) (matched total : Nat) (records : List Value), records ≠ [] →
        (Text.lines (recordsTable false columns matched total records).toList).length =
          records.length + 3 := by
  intro record
  have lines : Text.lines (recordsTable false ["a", "b"] 1 1 [record]).toList =
      ["a           b".toList, "line".toList, "break  1".toList, [],
        "1 of 1 record(s) matched".toList] := by decide +kernel
  refine ⟨lines, fun claim => ?_⟩
  have four := claim ["a", "b"] 1 1 [record] (by simp)
  rw [lines] at four
  exact absurd four (by decide)

end SchemaFilter.Report
