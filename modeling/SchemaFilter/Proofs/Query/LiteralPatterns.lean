import SchemaFilter.Proofs.Query.Wildcards
import SchemaFilter.Proofs.Unicode.Folding

/-!
# Literal patterns in documents

The document of a condition on texts looks for its operand as it is. Read as a pattern, what stands
under `$regex` lists the characters of the operand, each of them as a literal, with an anchor beside
them where the operator asks for one. It compiles under the options that the document sets, but for
its size, and it matches what has the operand at its site once all characters are folded.

The anchor for the end of a text is not fulfilled before a last line break.
-/

namespace SchemaFilter

open Text

namespace Pattern

/-! ## Sites -/

namespace Site

def anchored (parts : List Tree) : Site → List Tree
  | anywhere => parts
  | atStart => .anchor .lineStart :: parts
  | atEnd => parts ++ [.anchor .lineEnd]

theorem map_tree_pieces (site : Site) (cs : List Char) :
    (site.pieces cs).map Piece.tree = site.anchored (cs.map fun c => .literal ⟨c, false⟩) := by
  cases site <;> simp [pieces, anchored, Piece.tree]

end Site

/-- The pattern of a literal is read as its characters with an anchor. -/
theorem read?_site (site : Site) (cs : List Char) :
    Tree.read? false (site.text cs) =
      some (.ofParts (site.anchored (cs.map fun c => .literal ⟨c, false⟩))) := by
  rw [Site.text_eq_pieces, read?_pieces, Site.map_tree_pieces]

/-- What ends with a line break ends with a part only if that is empty or ends with a line break
too. -/
theorem Site.last_of_atEnd_holds {part text : List Char}
    (h : Site.atEnd.holds part (text ++ ['\n']) = true) :
    part = [] ∨ ∃ front, part = front ++ ['\n'] := by
  rcases List.eq_nil_or_concat part with rfl | ⟨front, last, rfl⟩
  · exact .inl rfl
  · rw [List.concat_eq_append, holds, endsFolded, List.isSuffixOf_iff_suffix, folded_append,
      folded_append] at h
    obtain ⟨before, split⟩ := h
    rw [← List.append_assoc] at split
    have alike : folded [last] = folded ['\n'] := List.append_inj_right' split (by simp)
    rw [folded, folded, List.map_singleton, List.map_singleton, List.singleton_inj] at alike
    obtain rfl := (Unicode.fold_eq_fold_iff (by decide) (by decide)).1 alike
    exact .inr ⟨front, List.concat_eq_append⟩

end Pattern

/-! ## Documents -/

namespace Filter

variable {c : Condition} {site : Pattern.Site} {part : String}

theorem document_of_site (looks : c.operator.site? = some site) (operand : c.text = .ok part) :
    document (some (.condition c)) = .ok ⟨[(c.field, .object [("$options", .string "i"),
      ("$regex", .string (String.ofList (site.text part.toList)))])]⟩ :=
  document_some_eq_ok_iff.2 ⟨_, documentMembers_condition_eq_ok_iff.2
    ⟨_, Condition.demand_of_site looks operand, rfl⟩, rfl⟩

/-- The pattern that a document has for a text is read as the characters of the text with the anchor
of the operator. It compiles under its option to a pattern that takes so much memory, unless that is
too much, and what it compiles to matches exactly what can be cut in three, where the middle folds
like the text and the anchor leaves nothing on its side. So the anchor for the end is not fulfilled
before a last line break. -/
theorem document_pattern_literal (looks : c.operator.site? = some site)
    (operand : c.text = .ok part) :
    ∃ pattern p,
      document (some (.condition c)) = .ok ⟨[(c.field, .object [("$options", .string "i"),
        ("$regex", .string pattern)])]⟩ ∧
      Pattern.Tree.read? false pattern.toList =
        some (.ofParts (site.anchored (part.toList.map fun ch => .literal ⟨ch, false⟩))) ∧
      p.size = site.memory part.toList.length ∧
      Pattern.ofText pattern "i" =
        (if p.size ≤ Pattern.sizeLimit then .ok p else .error (.invalidPattern pattern)) ∧
      (∀ text : String, p.matches? text = true ↔
        ∃ before middle after, text.toList = before ++ (middle ++ after) ∧
          site.Spares before after ∧ folded middle = folded part.toList) ∧
      (site = .atEnd → ∀ text : String, p.matches? (text ++ "\n") = true →
        part.toList = [] ∨ ∃ front, part.toList = front ++ ['\n']) := by
  obtain ⟨p, size, compiled, matching⟩ := Pattern.exists_ofText_site site part.toList
  refine ⟨_, p, document_of_site looks operand, ?_, size, compiled, fun text => ?_, ?_⟩
  · rw [String.toList_ofList]
    exact Pattern.read?_site site part.toList
  · rw [matching]
    exact Pattern.Site.holds_iff
  · rintro rfl text h
    have newline : "\n".toList = ['\n'] := rfl
    rw [matching, String.toList_append, newline] at h
    exact Pattern.Site.last_of_atEnd_holds h

/-- Signs of patterns are looked for like other characters, also those that stand for sets, for
repetition and for the end of a text. -/
theorem document_pattern_of_signs :
    let c : Condition := ⟨"note", .endsWith, some (.string "[a+b]$")⟩
    c.operator.site? = some .atEnd ∧ c.text = .ok "[a+b]$" ∧
      ∃ pattern p,
        document (some (.condition c)) = .ok ⟨[("note", .object [("$options", .string "i"),
          ("$regex", .string pattern)])]⟩ ∧
        Pattern.ofText pattern "i" = .ok p ∧ p.matches? "see [A+B]$" = true ∧
        p.matches? "aab" = false ∧ p.matches? ("see [A+B]$" ++ "\n") = false := by
  intro c
  have looks : c.operator.site? = some .atEnd := rfl
  have operand : c.text = .ok "[a+b]$" := rfl
  obtain ⟨pattern, p, compiled, -, size, built, matching, ending⟩ :=
    document_pattern_literal looks operand
  have small : p.size ≤ Pattern.sizeLimit := by
    rw [size]
    decide
  rw [if_pos small] at built
  refine ⟨looks, operand, pattern, p, compiled, built, ?_, ?_, ?_⟩
  · exact (matching _).2 ⟨"see ".toList, "[A+B]$".toList, [], by decide, rfl, by decide +kernel⟩
  · rw [Bool.eq_false_iff, ne_eq, matching, ← Pattern.Site.holds_iff]
    decide +kernel
  · rw [Bool.eq_false_iff]
    intro h
    rcases ending rfl _ h with empty | ⟨front, split⟩
    · exact absurd empty (by decide)
    · have final : '$' = '\n' := by simpa using congrArg List.getLast? split
      exact absurd final (by decide)

end Filter

end SchemaFilter
