import SchemaFilter.Proofs.Json.Spelling
import SchemaFilter.Proofs.Text.Numerals

/-!
# Compact text is one line

The compact text of a value has no line break. In strings and keys line breaks are escaped, numbers are
written with digits, points and signs, and no blanks are put between the tokens.
-/

namespace SchemaFilter

open Text (not_mem_numeral)

/-! ## Numbers -/

namespace Double

theorem newline_not_mem_layout {digits : List Char} (h : '\n' ∉ digits) (leading : Int) :
    '\n' ∉ layout digits leading := by
  have taken (n : Nat) : '\n' ∉ digits.take n := fun hc => h (List.mem_of_mem_take hc)
  have dropped (n : Nat) : '\n' ∉ digits.drop n := fun hc => h (List.mem_of_mem_drop hc)
  have exponent : '\n' ∉ (toString leading.natAbs).toList := not_mem_numeral rfl _
  rw [layout]
  split
  · simp [h]
  · split
    · dsimp only
      split <;> simp [taken, dropped]
    · dsimp only
      have first := taken 1
      have others := dropped 1
      split <;> split <;>
        simp only [List.mem_append, List.mem_cons, List.not_mem_nil, not_or, first, others,
          exponent, not_false_eq_true, and_true] <;> decide

theorem newline_not_mem_stripZeros (n : Nat) : '\n' ∉ stripZeros (toString n).toList := by
  intro hc
  rw [stripZeros, List.mem_reverse] at hc
  exact not_mem_numeral rfl n (List.mem_reverse.1 ((List.dropWhile_sublist _).subset hc))

theorem newline_not_mem_magnitudeText (units : Nat) : '\n' ∉ magnitudeText units := by
  rw [magnitudeText]
  split
  · simp
  · generalize shortest units = decimal
    obtain ⟨digits, exponent⟩ := decimal
    exact newline_not_mem_layout (newline_not_mem_stripZeros digits) _

theorem newline_not_mem_text (d : Double) : '\n' ∉ d.text.toList := by
  rw [text, String.toList_ofList]
  split <;> simp [newline_not_mem_magnitudeText]

end Double

theorem Number.newline_not_mem_text : (n : Number) → '\n' ∉ n.text.toList
  | .integer (.ofNat n) => not_mem_numeral rfl n
  | .integer (.negSucc n) => by
    have minus : (text (.integer (.negSucc n))).toList = '-' :: (toString (n + 1)).toList :=
      String.toList_append
    rw [minus, List.mem_cons, not_or]
    exact ⟨by decide, not_mem_numeral rfl _⟩
  | .double d => d.newline_not_mem_text

namespace Json

/-! ## Strings -/

theorem newline_not_mem_escape (c : Char) : '\n' ∉ escape c := by
  have digit : ∀ n < 16, '\n' ≠ hexDigit n := by decide
  unfold escape
  split
  iterate 7 decide
  next _ _ noBreak _ _ _ _ =>
  split
  · next control =>
    have first := digit (c.toNat / 16) (by omega)
    have second := digit (c.toNat % 16) (by omega)
    simp [first, second]
  · simpa using Ne.symm noBreak

theorem newline_not_mem_quote (s : String) : '\n' ∉ quote s := by
  simp [quote, newline_not_mem_escape]

/-! ## Values -/

namespace Layout

theorem newline_not_mem_entries {texts : List (List Char)} (h : ∀ text ∈ texts, '\n' ∉ text) :
    '\n' ∉ entries [] texts := by
  induction texts with
  | nil => simp [entries]
  | cons text rest ih =>
    obtain ⟨first, others⟩ := List.forall_mem_cons.1 h
    cases rest with
    | nil => simpa [entries] using first
    | cons next rest => simpa [entries, first] using ih others

mutual

/-- The compact text of a value has no line break. -/
theorem newline_not_mem_compact : (v : Value) → '\n' ∉ (ofValue v).compact
  | .null => by decide
  | .bool true => by decide
  | .bool false => by decide
  | .number n => n.newline_not_mem_text
  | .string s => newline_not_mem_quote s
  | .array items => by
    have inside := newline_not_mem_entries
      (List.forall_mem_map.2 (newline_not_mem_compact_items items))
    simpa [ofValue, compact, compactItems_eq] using inside
  | .object members => by
    have each : ∀ m ∈ ofMembers members, '\n' ∉ member [] compact m := fun m hm => by
      simpa [member, newline_not_mem_quote] using newline_not_mem_compact_members members m hm
    rw [ofValue, compact, compactMembers_eq]
    simpa using newline_not_mem_entries (List.forall_mem_map.2 each)

theorem newline_not_mem_compact_items :
    (items : List Value) → ∀ item ∈ ofItems items, '\n' ∉ item.compact
  | [] => by simp [ofItems]
  | v :: vs => by
    rw [ofItems]
    exact List.forall_mem_cons.2 ⟨newline_not_mem_compact v, newline_not_mem_compact_items vs⟩

theorem newline_not_mem_compact_members :
    (members : List (String × Value)) → ∀ m ∈ ofMembers members, '\n' ∉ m.2.compact
  | [] => by simp [ofMembers]
  | (k, v) :: rest => by
    rw [ofMembers]
    exact List.forall_mem_cons.2 ⟨newline_not_mem_compact v, newline_not_mem_compact_members rest⟩

end

end Layout

theorem newline_not_mem_print (v : Value) : '\n' ∉ (print v).toList := by
  rw [print, Layout.render, String.toList_ofList]
  exact Layout.newline_not_mem_compact v

end Json

end SchemaFilter
