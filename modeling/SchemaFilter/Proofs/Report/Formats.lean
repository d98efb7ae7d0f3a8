import SchemaFilter.Command.Run
import SchemaFilter.Proofs.Report.Alignment

/-!
# Two formats of a result

Matching records are shown as a table or as JSON. Both show the first ones, as many as the limit allows,
and say how many there are in all. The table says so in its last line, which also has the number of
those that are shown if they are fewer. A limit of zero is the exception: the table says then that
there is no match, whatever has been found.
-/

namespace SchemaFilter.Report

open Command (presentRecords)

/-! ## Counts -/

/-- The numbers of matching and of all records, and what is said of those that are shown. -/
def countLine (matched total : Nat) (rest : List Char) : List Char :=
  (toString matched).toList ++ (" of ".toList ++ ((toString total).toList ++
    (" record(s) matched".toList ++ rest)))

/-- A line has the numbers of matching, of all and of shown records. The last one is only there if
fewer are shown than match. -/
def Counts (matched total shown : Nat) (line : List Char) : Prop :=
  ∃ rest, line = countLine matched total rest ∧
    (shown = matched ∧ rest = [] ∨
      shown < matched ∧ rest = ", showing ".toList ++ (toString shown).toList)

theorem counts_summary {shown matched : Nat} (h : shown ≤ matched) (total : Nat) :
    Counts matched total shown (summary shown matched total).toList := by
  rw [summary]
  split
  · next fewer =>
    refine ⟨_, ?_, .inr ⟨fewer, rfl⟩⟩
    simp only [String.toList_append, List.append_assoc]
    rfl
  · next notFewer =>
    refine ⟨_, ?_, .inl ⟨by omega, rfl⟩⟩
    simp only [String.toList_append, List.append_assoc]
    rfl

theorem countLine_injective {matched total matched' total' : Nat} {rest rest' : List Char}
    (same : countLine matched total rest = countLine matched' total' rest') :
    matched = matched' ∧ total = total' ∧ rest = rest' := by
  -- Each number ends before a blank, which is no digit.
  have blank : Char.isDigit ' ' = false := rfl
  obtain ⟨first, behind⟩ := Text.numeral_append_injective blank same
  replace behind := (List.append_right_inj "of ".toList).1 behind
  obtain ⟨second, last⟩ := Text.numeral_append_injective blank behind
  exact ⟨first, second, (List.append_right_inj "record(s) matched".toList).1 last⟩

/-- The three numbers can be read from the line. -/
theorem Counts.unique {matched total shown matched' total' shown' : Nat} {line : List Char}
    (h : Counts matched total shown line) (h' : Counts matched' total' shown' line) :
    matched' = matched ∧ total' = total ∧ shown' = shown := by
  obtain ⟨rest, rfl, hrest⟩ := h
  obtain ⟨rest', same, hrest'⟩ := h'
  obtain ⟨rfl, rfl, rfl⟩ := countLine_injective same
  refine ⟨rfl, rfl, ?_⟩
  rcases hrest with ⟨rfl, rfl⟩ | ⟨-, rfl⟩
  · rcases hrest' with ⟨rfl, -⟩ | ⟨-, nonempty⟩
    · rfl
    · simp at nonempty
  · rcases hrest' with ⟨-, empty⟩ | ⟨-, numerals⟩
    · simp at empty
    · exact (Text.numeral_injective (List.append_cancel_left numerals)).symm

theorem counts_summary_iff {shown matched total : Nat} (h : shown ≤ matched) {m t k : Nat} :
    Counts m t k (summary shown matched total).toList ↔ m = matched ∧ t = total ∧ k = shown := by
  have own := counts_summary h total
  constructor
  · exact own.unique
  · rintro ⟨rfl, rfl, rfl⟩
    exact own

/-! ## Formats -/

def shownCount (limit : Option Nat) (matched : Nat) : Nat :=
  limit.elim matched (min · matched)

def firstRecords (limit : Option Nat) (found : List Value) : List Value :=
  found.take (shownCount limit found.length)

theorem limited_eq_firstRecords (limit : Option Nat) (found : List Value) :
    limited limit found = firstRecords limit found := by
  cases limit with
  | none => simp [limited, firstRecords, shownCount]
  | some n => simp [limited, firstRecords, shownCount, List.take_eq_take_iff]

theorem length_firstRecords_le (limit : Option Nat) (found : List Value) :
    (firstRecords limit found).length ≤ found.length :=
  List.length_take_le' ..

theorem firstRecords_eq_nil_iff (limit : Option Nat) (found : List Value) :
    firstRecords limit found = [] ↔ found = [] ∨ limit = some 0 := by
  rw [firstRecords, List.take_eq_nil_iff]
  cases limit with
  | none => simp [shownCount]
  | some n =>
    simp only [shownCount, Option.elim_some, Option.some.injEq, ← List.length_eq_zero_iff]
    omega

/-- A text is a line of JSON, or several, that shows records and states how many match and how many
there are. -/
def JsonStates (matched total : Nat) (shown : List Value) (text : String) : Prop :=
  ∃ body, text = body ++ "\n" ∧ Json.Spells (.object [("matched", .nat matched),
    ("total", .nat total), ("records", .ofValue (.array shown))]) body.toList

/-- A text is a table that shows records and states how many match and how many there are, or it says
that none match. -/
inductive TableStates (colored : Bool) (columns : List String) (matched total : Nat)
    (shown : List Value) (text : String) : Prop where
  | nothing (h : matched = 0) (notice : text = "No matching records.\n")
  | records {widths : String → Nat} {header counts : List Char} {rows : List (List Char)}
    (some : 0 < matched) (lines : LinesUp columns shown widths header rows)
    (numbers : ∀ m t k, Counts m t k counts ↔ m = matched ∧ t = total ∧ k = shown.length)
    (written : text.toList = Text.written
      ((dimmed colored (String.ofList header)).toList :: (rows ++ [[], counts])))

variable {colored : Bool} {columns : List String} {matched total : Nat} {shown : List Value}

theorem tableStates_recordsTable (some : shown ≠ []) (enough : shown.length ≤ matched) :
    TableStates colored columns matched total shown
      (recordsTable colored columns matched total shown) :=
  .records (Nat.lt_of_lt_of_le (List.length_pos_iff.2 some) enough) (linesUp_table columns shown)
    (fun _ _ _ => counts_summary_iff enough) (toList_recordsTable some)

/-- The notice is one line, and a table is more. -/
theorem notice_ne_written {lines : List (List Char)} (h : 2 ≤ lines.length) :
    "No matching records.\n".toList ≠ Text.written lines := by
  intro same
  have count := Text.length_lines_written lines
  have one : (Text.lines "No matching records.\n".toList).length = 1 := by decide
  rw [← same, one] at count
  omega

theorem recordsTable_eq_notice_iff :
    recordsTable colored columns matched total shown = "No matching records.\n" ↔ shown = [] := by
  constructor
  · intro notice
    by_contra some
    have lines : (recordsTable colored columns matched total shown).toList =
        Text.written (tableLines colored columns matched total shown) := toList_recordsTable some
    rw [notice] at lines
    exact notice_ne_written (by simp [tableLines]) lines
  · rintro rfl
    rfl

theorem TableStates.eq_zero_of_notice
    (h : TableStates colored columns matched total shown "No matching records.\n") :
    matched = 0 := by
  cases h with
  | nothing h => exact h
  | records _ _ _ written => exact absurd written (notice_ne_written (by simp))

/-! ## Agreement -/

theorem jsonStates_presentRecords {how : Display} (json : how.json = true) (columns : List String)
    (total : Nat) (limit : Option Nat) (found : List Value) :
    JsonStates found.length total (firstRecords limit found)
      (presentRecords how columns total false limit found) := by
  refine ⟨_, ?_, Json.Layout.spells_render how.pretty _⟩
  simp [presentRecords, Command.present, json, limited_eq_firstRecords, recordsLayout]

theorem presentRecords_table {how : Display} (json : how.json = false) (loud : how.quiet = false)
    (columns : List String) (total : Nat) (limit : Option Nat) (found : List Value) :
    presentRecords how columns total false limit found =
      recordsTable how.colored columns found.length total (firstRecords limit found) := by
  simp [presentRecords, Command.present, json, loud, limited_eq_firstRecords]

/-- Both formats show the first records, as many as the limit allows. The JSON text states how many match
and how many there are. The table states the same unless the limit is zero and there is a match, and it
says that none match only if none do or the limit is zero. -/
theorem formats_agree_iff (columns : List String) (total : Nat) (limit : Option Nat)
    (found : List Value) :
    (∀ how : Display, how.json = true →
      JsonStates found.length total (firstRecords limit found)
        (presentRecords how columns total false limit found)) ∧
    ∀ how : Display, how.json = false → how.quiet = false →
      (TableStates how.colored columns found.length total (firstRecords limit found)
          (presentRecords how columns total false limit found) ↔
        (limit = some 0 → found = [])) ∧
      (presentRecords how columns total false limit found = "No matching records.\n" ↔
        found = [] ∨ limit = some 0) := by
  refine ⟨fun how json => jsonStates_presentRecords json columns total limit found,
    fun how json loud => ?_⟩
  have nothing := firstRecords_eq_nil_iff limit found
  have enough := length_firstRecords_le limit found
  rw [presentRecords_table json loud, recordsTable_eq_notice_iff]
  refine ⟨?_, nothing⟩
  by_cases empty : firstRecords limit found = []
  · rw [recordsTable_eq_notice_iff.2 empty]
    constructor
    · exact fun states _ => List.length_eq_zero_iff.1 states.eq_zero_of_notice
    · intro none
      refine .nothing (List.length_eq_zero_iff.2 ?_) rfl
      exact (nothing.1 empty).elim id none
  · exact iff_of_true (tableStates_recordsTable empty enough)
      fun zero => absurd (nothing.2 (.inr zero)) empty

/-- With a limit below the number of matches the table says how many records it shows. -/
theorem formats_agree_on_two_of_three :
    let record (n : Int) : Value := .object [("n", .number (.integer n))]
    let found := [record 7, record 8, record 9]
    let json : Display := { (default : Display) with json := true }
    let plain : Display := default
    json.json = true ∧ plain.json = false ∧ plain.quiet = false ∧
      JsonStates 3 5 [record 7, record 8] (presentRecords json ["n"] 5 false (some 2) found) ∧
      TableStates plain.colored ["n"] 3 5 [record 7, record 8]
        (presentRecords plain ["n"] 5 false (some 2) found) ∧
      presentRecords plain ["n"] 5 false (some 2) found =
        "n\n7\n8\n\n3 of 5 record(s) matched, showing 2\n" := by
  intro record found json plain
  have agree := formats_agree_iff ["n"] 5 (some 2) found
  exact ⟨rfl, rfl, rfl, agree.1 json rfl, (agree.2 plain rfl rfl).1.2 (by simp), by decide +kernel⟩

/-- With a limit of zero the table says that nothing matches, where the JSON text says that two records
do. -/
theorem table_denies_matches_at_limit_zero :
    let found : List Value := [.object [("n", .null)], .object []]
    let json : Display := { (default : Display) with json := true }
    let plain : Display := default
    presentRecords json ["n"] 2 false (some 0) found =
        "\x7b\"matched\":2,\"total\":2,\"records\":[]\x7d\n" ∧
      presentRecords plain ["n"] 2 false (some 0) found = "No matching records.\n" ∧
      ¬TableStates plain.colored ["n"] found.length 2 []
        (presentRecords plain ["n"] 2 false (some 0) found) := by
  intro found json plain
  have notice : presentRecords plain ["n"] 2 false (some 0) found = "No matching records.\n" := rfl
  refine ⟨by decide +kernel, notice, fun states => ?_⟩
  rw [notice] at states
  cases states.eq_zero_of_notice

end SchemaFilter.Report
