import SchemaFilter.Proofs.Pattern.Reading
import SchemaFilter.Text.Folded

/-!
# Matching escaped literals

The pattern of an escaped literal matches a text exactly if the text contains the literal, begins
with it or ends with it up to case, depending on the anchor beside it. `Site` names the three cases.

The argument follows the set of places through the pieces of the pattern: after the characters of a
literal it holds the places that lie behind an occurrence of the literal from an earlier place.
-/

namespace SchemaFilter.Pattern

/-! ## Places -/

theorem testBit_two_mul (n i : Nat) :
    (2 * n).testBit i = true ↔ ∃ j, i = j + 1 ∧ n.testBit j = true := by
  cases i with
  | zero => simp [Nat.testBit_zero]
  | succ i => simp [Nat.testBit_succ]

/-- Behind a character lie the places whose character before is one of the class. -/
theorem testBit_advance_char {text : List Char} {c : CharClass} {places j : Nat} :
    (advance text (.char c) places).testBit j = true ↔
      ∃ i, j = i + 1 ∧ places.testBit i = true ∧ (text[i]?).any c.contains = true := by
  rw [advance, testBit_two_mul]
  simp

theorem getElem?_neighbours (before : Option Char) (text : List Char) (i : Nat) :
    (neighbours before text)[i]? =
      if i ≤ text.length then some (if i = 0 then before else text[i - 1]?, text[i]?)
      else none := by
  induction text generalizing before i with
  | nil => cases i <;> simp [neighbours]
  | cons c text ih =>
    cases i with
    | zero => simp [neighbours]
    | succ i =>
      rw [neighbours, List.getElem?_cons_succ, ih]
      cases i <;> simp

theorem testBit_advance_start {text : List Char} {places i : Nat} :
    (advance text (.assertion .startText) places).testBit i = true ↔
      i = 0 ∧ places.testBit i = true := by
  rw [advance, Nat.testBit_and, Bool.and_eq_true, and_comm]
  refine and_congr_left fun _ => ?_
  rw [testBit_mask, getElem?_neighbours]
  rcases Nat.eq_zero_or_pos i with rfl | pos
  · simp [Assertion.holds]
  · have later : i ≠ 0 := by omega
    split
    · next inside =>
      have : i - 1 < text.length := by omega
      simp [later, Assertion.holds, this]
    · simp [later]

theorem testBit_advance_finish {text : List Char} {places i : Nat} :
    (advance text (.assertion .endText) places).testBit i = true ↔
      i = text.length ∧ places.testBit i = true := by
  rw [advance, Nat.testBit_and, Bool.and_eq_true, and_comm]
  refine and_congr_left fun _ => ?_
  rw [testBit_mask, getElem?_neighbours]
  rcases Nat.lt_trichotomy i text.length with less | rfl | more
  · have inside : i ≤ text.length := by omega
    have other : i ≠ text.length := by omega
    simp [inside, other, Assertion.holds, less]
  · simp [Assertion.holds]
  · have outside : ¬i ≤ text.length := by omega
    have other : i ≠ text.length := by omega
    simp [outside, other]

theorem size_sequences (ps : List Pattern) :
    (sequences ps).size = ps.foldr (fun p n => p.size + n) 0 := by
  match ps with
  | [] => rfl
  | [p] => simp [sequences]
  | p :: q :: rest => simp [sequences, size, size_sequences (q :: rest)]

/-- A sequence is gone through from its first pattern to its last. -/
theorem advance_sequences (text : List Char) (ps : List Pattern) (places : Nat) :
    advance text (sequences ps) places =
      ps.foldl (fun places p => advance text p places) places := by
  match ps with
  | [] => rfl
  | [p] => rfl
  | p :: q :: rest =>
    simp only [sequences, advance, advance_sequences text (q :: rest), List.foldl_cons]

/-! ## Occurrences -/

/-- The places behind the characters of a literal are those that an occurrence of it ends at. -/
theorem testBit_foldl_chars {text cs : List Char} {places j : Nat} :
    ((cs.map fun c => (Piece.char c).pattern).foldl
      (fun places p => advance text p places) places).testBit j = true ↔
        ∃ i, j = i + cs.length ∧ places.testBit i = true ∧
          Text.folded cs <+: (Text.folded text).drop i := by
  induction cs generalizing places with
  | nil => simp [Text.folded]
  | cons c cs ih =>
    have step (i : Nat) : Text.folded (c :: cs) <+: (Text.folded text).drop i ↔
        (text[i]?).any (CharClass.caseless c).contains = true ∧
          Text.folded cs <+: (Text.folded text).drop (i + 1) := by
      by_cases inside : i < text.length
      · rw [List.drop_eq_getElem_cons (by simpa using inside)]
        simp [Text.folded, List.cons_prefix_cons, CharClass.contains, inside,
          @eq_comm _ (Unicode.fold c)]
      · rw [List.drop_of_length_le (by simp; omega)]
        simp [Text.folded, inside]
    rw [List.map_cons, List.foldl_cons, ih]
    constructor
    · rintro ⟨_, rfl, hplace, rest⟩
      obtain ⟨i, rfl, hi, first⟩ := testBit_advance_char.1 hplace
      exact ⟨i, by simp; omega, hi, (step i).2 ⟨first, rest⟩⟩
    · rintro ⟨i, rfl, hi, all⟩
      obtain ⟨first, rest⟩ := (step i).1 all
      exact ⟨i + 1, by simp; omega, testBit_advance_char.2 ⟨i, rfl, hi, first⟩, rest⟩

/-! ## Sites -/

/-- Where a literal has to stand in a text. -/
inductive Site where
  | anywhere
  | atStart
  | atEnd
deriving DecidableEq

namespace Site

def pieces (cs : List Char) : Site → List Piece
  | anywhere => cs.map Piece.char
  | atStart => .start :: cs.map Piece.char
  | atEnd => cs.map Piece.char ++ [.finish]

/-- The text of the pattern for a literal at a site. -/
def text (cs : List Char) : Site → List Char
  | anywhere => escape cs
  | atStart => '^' :: escape cs
  | atEnd => escape cs ++ ['$']

/-- Whether a literal stands at a site of a text, case aside. -/
def holds : Site → (part text : List Char) → Bool
  | anywhere => Text.containsFolded
  | atStart => Text.beginsFolded
  | atEnd => Text.endsFolded

/-- The memory that the pattern for a literal of a given length takes. -/
def memory (length : Nat) : Site → Nat
  | anywhere => 96 * length
  | atStart => 96 * length + 32
  | atEnd => 96 * length + 32

theorem text_eq_pieces (cs : List Char) (site : Site) :
    site.text cs = (site.pieces cs).flatMap Piece.text := by
  cases site <;> simp [text, pieces, escape_eq_pieces, Piece.text]

theorem size_pieces (cs : List Char) (site : Site) :
    (sequences ((site.pieces cs).map Piece.pattern)).size = site.memory cs.length := by
  have chars (rest : List Piece) :
      ((cs.map Piece.char ++ rest).map Piece.pattern).foldr (fun p n => p.size + n) 0 =
        96 * cs.length + (rest.map Piece.pattern).foldr (fun p n => p.size + n) 0 := by
    induction cs with
    | nil => simp
    | cons c cs ih =>
      rw [List.map_cons, List.cons_append, List.map_cons, List.foldr_cons, ih, List.length_cons]
      simp only [Piece.pattern, size, classSize]
      omega
  rw [size_sequences]
  cases site with
  | anywhere =>
    have whole := chars []
    rwa [List.append_nil] at whole
  | atStart =>
    have whole := chars []
    rw [List.append_nil] at whole
    rw [pieces, List.map_cons, List.foldr_cons, whole]
    exact Nat.add_comm 32 _
  | atEnd => exact chars [.finish]

end Site

theorem testBit_allPlaces (n i : Nat) :
    (Nat.pow 2 (n + 1) - 1).testBit i = true ↔ i ≤ n := by
  rw [show (Nat.pow 2 (n + 1) - 1).testBit i = decide (i < n + 1) from
    Nat.testBit_two_pow_sub_one (n + 1) i, decide_eq_true_eq, Nat.lt_succ_iff]

/-- A pattern matches exactly if it gets to some place of the text. -/
theorem matches?_iff {p : Pattern} {text : String} :
    p.matches? text = true ↔
      ∃ j, (p.advance text.toList (Nat.pow 2 (text.toList.length + 1) - 1)).testBit j = true := by
  simp only [matches?, bne_iff_ne]
  constructor
  · exact Nat.exists_testBit_of_ne_zero
  · rintro ⟨j, hj⟩ zero
    rw [zero, Nat.zero_testBit] at hj
    exact Bool.false_ne_true hj

/-- An escaped literal matches what stands at its site, case aside. -/
theorem matches?_site (site : Site) (cs : List Char) (text : String) :
    (sequences ((site.pieces cs).map Piece.pattern)).matches? text =
      site.holds cs text.toList := by
  rw [Bool.eq_iff_iff, matches?_iff]
  simp only [advance_sequences]
  cases site with
  | anywhere =>
    simp only [Site.pieces, List.map_map, Function.comp_def, testBit_foldl_chars,
      testBit_allPlaces, Site.holds, Text.containsFolded, Text.occursIn_iff]
    constructor
    · rintro ⟨_, i, -, -, stands⟩
      exact stands.isInfix.trans (List.drop_suffix i _).isInfix
    · intro occurs
      obtain ⟨before, after, split⟩ := occurs
      refine ⟨_, before.length, rfl, ?_, ?_⟩
      · have := congrArg List.length split
        simp at this
        omega
      · exact ⟨after, by rw [← split]; simp⟩
  | atStart =>
    -- nothing but the first place is let through by the start of the text
    simp only [Site.pieces, List.map_cons, List.foldl_cons, List.map_map, Function.comp_def,
      testBit_foldl_chars, Site.holds, Text.beginsFolded, List.isPrefixOf_iff_prefix]
    constructor
    · rintro ⟨_, i, -, hi, stands⟩
      obtain ⟨rfl, -⟩ := testBit_advance_start.1 hi
      exact stands
    · intro stands
      exact ⟨_, 0, rfl, testBit_advance_start.2 ⟨rfl, (testBit_allPlaces _ _).2 (Nat.zero_le _)⟩,
        stands⟩
  | atEnd =>
    simp only [Site.pieces, List.map_append, List.foldl_append, List.map_cons, List.map_nil,
      List.foldl_cons, List.foldl_nil, List.map_map, Function.comp_def, Piece.pattern,
      Site.holds, Text.endsFolded, List.isSuffixOf_iff_suffix]
    constructor
    · rintro ⟨j, hj⟩
      obtain ⟨rfl, hplace⟩ := testBit_advance_finish.1 hj
      obtain ⟨i, hlength, -, stands⟩ := testBit_foldl_chars.1 hplace
      -- what is taken from place `i` on ends with the text, so it is all that is left there
      have whole : Text.folded cs = (Text.folded text.toList).drop i :=
        stands.eq_of_length (by simp; omega)
      exact whole ▸ List.drop_suffix i _
    · rintro ⟨before, split⟩
      have hlength := congrArg List.length split
      simp only [List.length_append, Text.length_folded] at hlength
      have tail : (Text.folded text.toList).drop before.length = Text.folded cs := by
        rw [← split, List.drop_left]
      refine ⟨_, testBit_advance_finish.2 ⟨rfl, testBit_foldl_chars.2
        ⟨before.length, hlength.symm, (testBit_allPlaces _ _).2 (by omega), ?_⟩⟩⟩
      exact tail.symm ▸ List.prefix_rfl

/-- The pattern of a literal compiles unless it is too large, and what it compiles to matches what
stands at its site, case aside. -/
theorem exists_ofText_site (site : Site) (cs : List Char) :
    ∃ p, p.size = site.memory cs.length ∧
      ofText (String.ofList (site.text cs)) "i" =
        (if p.size ≤ sizeLimit then .ok p
          else .error (.invalidPattern (String.ofList (site.text cs)))) ∧
      ∀ text : String, p.matches? text = site.holds cs text.toList := by
  refine ⟨_, Site.size_pieces cs site, ?_, matches?_site site cs⟩
  rw [Site.text_eq_pieces, ofText_pieces]

/-- A literal that is not too long compiles. -/
theorem ofText_site (site : Site) (cs : List Char) (h : site.memory cs.length ≤ sizeLimit) :
    ∃ p, ofText (String.ofList (site.text cs)) "i" = .ok p ∧
      ∀ text : String, p.matches? text = site.holds cs text.toList := by
  obtain ⟨p, size, compiled, matching⟩ := exists_ofText_site site cs
  rw [size, if_pos h] at compiled
  exact ⟨p, compiled, matching⟩

/-- The pattern of a literal that is too long cannot be built. -/
theorem ofText_site_of_large (site : Site) (cs : List Char)
    (h : sizeLimit < site.memory cs.length) :
    ofText (String.ofList (site.text cs)) "i" =
      .error (.invalidPattern (String.ofList (site.text cs))) := by
  obtain ⟨p, size, compiled, -⟩ := exists_ofText_site site cs
  rwa [size, if_neg (Nat.not_le.2 h)] at compiled

end SchemaFilter.Pattern
