import SchemaFilter.Proofs.Query.DocumentMeaning
import SchemaFilter.Proofs.Query.Rendering
import SchemaFilter.Proofs.Sql.Like

/-!
# Wildcards in operands

Documents and clauses look for a text with patterns of two languages. The pattern of a document has
the text escaped, so it matches what contains the text, begins with it or ends with it, whatever its
characters are. The pattern of a clause has the text as it is. It matches all of that too, and nothing
else exactly if the text is a literal of `LIKE`.

Either pattern matches a text that can be cut in three, where what matches the operand stands in the
middle and the site says which of the other two parts have to be empty. This leaves the middle to be
compared.
-/

namespace SchemaFilter

open Text

namespace Pattern.Site

open Sql

/-- The pattern of `LIKE` that has a part at a site. -/
def likePattern (part : List Char) : Site → List Char
  | anywhere => anyRun :: (part ++ [anyRun])
  | atStart => part ++ [anyRun]
  | atEnd => anyRun :: part

/-- Whether something may stand before and behind what a site is about. -/
def Spares (before after : List Char) : Site → Prop
  | anywhere => True
  | atStart => before = []
  | atEnd => after = []

theorem spares_nil (site : Site) : site.Spares [] [] := by
  cases site <;> simp [Spares]

variable {site : Site} {part text : List Char}

/-- A part stands at a site if something that folds alike does. -/
theorem holds_iff : site.holds part text = true ↔
    ∃ before middle after, text = before ++ (middle ++ after) ∧ site.Spares before after ∧
      folded middle = folded part := by
  cases site with
  | anywhere =>
    simp only [holds, containsFolded, occursIn_iff, folded, List.infix_map_iff, Spares, true_and]
    constructor
    · rintro ⟨middle, ⟨before, after, split⟩, same⟩
      exact ⟨before, middle, after, by simp [← split], same.symm⟩
    · rintro ⟨before, middle, after, rfl, same⟩
      exact ⟨middle, ⟨before, after, by simp⟩, same.symm⟩
  | atStart =>
    simp only [holds, beginsFolded, List.isPrefixOf_iff_prefix, folded, List.prefix_map_iff, Spares]
    constructor
    · rintro ⟨middle, ⟨after, split⟩, same⟩
      exact ⟨[], middle, after, split.symm, rfl, same.symm⟩
    · rintro ⟨before, middle, after, rfl, rfl, same⟩
      exact ⟨middle, ⟨after, rfl⟩, same.symm⟩
  | atEnd =>
    simp only [holds, endsFolded, List.isSuffixOf_iff_suffix, folded, List.suffix_map_iff, Spares]
    constructor
    · rintro ⟨middle, ⟨before, split⟩, same⟩
      exact ⟨before, middle, [], by simp [split], rfl, same.symm⟩
    · rintro ⟨before, middle, after, rfl, rfl, same⟩
      exact ⟨middle, ⟨before, by simp⟩, same.symm⟩

/-- The pattern for a site matches if the part, as a pattern itself, matches something there. -/
theorem like_likePattern_iff : like (site.likePattern part) text = true ↔
    ∃ before middle after, text = before ++ (middle ++ after) ∧ site.Spares before after ∧
      like part middle = true := by
  cases site with
  | anywhere =>
    simp only [likePattern, like_anyRun_cons_iff, like_append_iff, like_anyRun, and_true, Spares,
      true_and]
    constructor
    · rintro ⟨before, _, rfl, middle, after, rfl, h⟩
      exact ⟨before, middle, after, rfl, h⟩
    · rintro ⟨before, middle, after, rfl, h⟩
      exact ⟨before, _, rfl, middle, after, rfl, h⟩
  | atStart =>
    simp only [likePattern, like_append_iff, like_anyRun, and_true, Spares]
    constructor
    · rintro ⟨middle, after, rfl, h⟩
      exact ⟨[], middle, after, rfl, rfl, h⟩
    · rintro ⟨before, middle, after, rfl, rfl, h⟩
      exact ⟨middle, after, rfl, h⟩
  | atEnd =>
    simp only [likePattern, like_anyRun_cons_iff, Spares]
    constructor
    · rintro ⟨before, middle, rfl, h⟩
      exact ⟨before, middle, [], by simp, rfl, h⟩
    · rintro ⟨before, middle, after, rfl, rfl, h⟩
      exact ⟨before, middle, by simp, h⟩

theorem like_of_holds (h : site.holds part text = true) :
    like (site.likePattern part) text = true := by
  obtain ⟨before, middle, after, split, spared, same⟩ := holds_iff.1 h
  exact like_likePattern_iff.2 ⟨before, middle, after, split, spared, like_of_folded_eq same⟩

theorem folded_eq_of_holds (h : site.holds part text = true)
    (length : text.length = part.length) : folded text = folded part := by
  obtain ⟨before, middle, after, rfl, -, same⟩ := holds_iff.1 h
  have whole := congrArg List.length same
  simp only [length_folded, List.length_append] at whole length
  obtain rfl : before = [] := List.eq_nil_of_length_eq_zero (by omega)
  obtain rfl : after = [] := List.eq_nil_of_length_eq_zero (by omega)
  simpa using same

/-- The pattern matches nothing else exactly if the part is a literal. -/
theorem like_eq_holds_iff : (∀ text, like (site.likePattern part) text = site.holds part text) ↔
    IsLiteral part := by
  constructor
  · intro same
    -- the part without its signs is matched, and it is as long as the part itself
    have matched : like (site.likePattern part) (unsigned part) = true :=
      like_likePattern_iff.2
        ⟨[], unsigned part, [], by simp, site.spares_nil, like_unsigned part⟩
    rw [same] at matched
    exact isLiteral_of_folded_unsigned (folded_eq_of_holds matched (by simp [unsigned]))
  · intro literal text
    rw [Bool.eq_iff_iff, like_likePattern_iff, holds_iff]
    simp only [literal.like_iff]

end Pattern.Site

namespace Filter

open Sql (like)

variable {field part : String} {op : Operator} {site : Pattern.Site}

theorem clause_of_site (looks : op.site? = some site) :
    clause (some (.condition ⟨field, op, some (.string part)⟩)) =
      .ok ⟨field ++ " LIKE ?", [.string (String.ofList (site.likePattern part.toList))]⟩ := by
  have written (pattern : String) :
      Condition.comparison field "LIKE" (Clause.mark (.string pattern)) = field ++ " LIKE ?" := by
    simp [Condition.comparison, Clause.mark, String.append_assoc]
  have around : "%" ++ part ++ "%" = String.ofList ('%' :: (part.toList ++ ['%'])) := by
    simp [String.append_assoc]
  have behind : part ++ "%" = String.ofList (part.toList ++ ['%']) := by
    simp
  have before : "%" ++ part = String.ofList ('%' :: part.toList) := by
    simp
  rw [clause_eq, allLeaves, leaves_condition]
  cases op <;> cases looks
  case contains =>
    rw [Pattern.Site.likePattern, Sql.anyRun, ← around, ← written]
    rfl
  case startsWith =>
    rw [Pattern.Site.likePattern, Sql.anyRun, ← behind, ← written]
    rfl
  case endsWith =>
    rw [Pattern.Site.likePattern, Sql.anyRun, ← before, ← written]
    rfl

/-- An operator on texts selects with its document what has the text at its site, whatever characters
the text has, or it fails with a pattern that is too large. -/
theorem exists_document_of_site (looks : op.site? = some site) (field part : String) :
    ∃ d, document (some (.condition ⟨field, op, some (.string part)⟩)) = .ok d ∧
      (isReserved field = false → ∀ (record : Value) (text : String),
        record.field field = .string text →
          Outcome.Yields (Condition.PatternError ⟨field, op, some (.string part)⟩)
            (site.holds part.toList text.toList) ((Evaluator.of d).matches? record)) := by
  have demanded := Condition.demand_of_site
    (c := ⟨field, op, some (.string part)⟩) looks rfl
  refine ⟨⟨_⟩, document_some_eq_ok_iff.2
    ⟨_, documentMembers_condition_eq_ok_iff.2 ⟨_, demanded, rfl⟩, rfl⟩, ?_⟩
  intro unreserved record text present
  have meaning : Condition.holds ⟨field, op, some (.string part)⟩ record =
      site.holds part.toList text.toList := by
    cases op <;> cases looks <;>
      simp [Condition.holds, Operator.holds, present, Value.textTest, Value.scalarText?,
        Value.string?, Pattern.Site.holds]
  rw [Evaluator.matches?_of, Document.matches?, membersHold_field unreserved, ← meaning]
  exact Condition.yields_of_site looks rfl record

theorem patternFits_of_site (looks : op.site? = some site)
    (small : site.memory part.toList.length ≤ Pattern.sizeLimit) :
    Condition.PatternFits ⟨field, op, some (.string part)⟩ := by
  intro other text hsite htext
  cases looks.symm.trans hsite
  cases htext
  exact small

/-- The parameter that a clause binds for a text matches whatever contains the text, begins with it or
ends with it, as the operator says. It matches nothing else exactly if neither a percent sign nor an
underscore occurs in the text, whereas the document of the same condition looks for every text
literally. -/
theorem like_parameter_agrees_iff (looks : op.site? = some site) (field part : String) :
    let c : Condition := ⟨field, op, some (.string part)⟩
    ∃ pattern d, clause (some (.condition c)) = .ok ⟨field ++ " LIKE ?", [.string pattern]⟩ ∧
      document (some (.condition c)) = .ok d ∧
      (∀ text, site.holds part.toList text = true → like pattern.toList text = true) ∧
      ((∀ text, like pattern.toList text = site.holds part.toList text) ↔
        '%' ∉ part.toList ∧ '_' ∉ part.toList) ∧
      (isReserved field = false → ∀ (record : Value) (text : String),
        record.field field = .string text → Outcome.Yields c.PatternError
          (site.holds part.toList text.toList) ((Evaluator.of d).matches? record)) := by
  intro c
  obtain ⟨d, compiled, selects⟩ := exists_document_of_site looks field part
  refine ⟨_, d, clause_of_site looks, compiled, ?_, ?_, selects⟩
  · intro text h
    rw [String.toList_ofList]
    exact Pattern.Site.like_of_holds h
  · rw [String.toList_ofList]
    exact Pattern.Site.like_eq_holds_iff

/-- A sign of regular expressions is a character like others to both compilers. -/
theorem like_parameter_agrees_of_dotted_text :
    let c : Condition := ⟨"file", .endsWith, some (.string ".md")⟩
    let record : Value := .object [("file", .string "README.MD")]
    c.operator.site? = some .atEnd ∧
      ∃ pattern d, clause (some (.condition c)) = .ok ⟨"file LIKE ?", [.string pattern]⟩ ∧
        document (some (.condition c)) = .ok d ∧
        (∀ text, like pattern.toList text = endsFolded ".md".toList text) ∧
        (Evaluator.of d).matches? record = .ok true := by
  intro c record
  obtain ⟨pattern, d, written, compiled, -, agrees, selects⟩ :=
    like_parameter_agrees_iff (rfl : c.operator.site? = some .atEnd) "file" ".md"
  have small : c.PatternFits :=
    patternFits_of_site (rfl : c.operator.site? = some .atEnd) (by decide)
  exact ⟨rfl, pattern, d, written, compiled, agrees.2 (by decide),
    (selects rfl record "README.MD" rfl).eq_ok small.not_patternError⟩

/-- An underscore in the text makes the parameter match what does not contain the text and what the
document of the condition does not select. -/
theorem wildcard_parameter_matches_other_text :
    let c : Condition := ⟨"name", .contains, some (.string "a_c")⟩
    let record : Value := .object [("name", .string "abc")]
    clause (some (.condition c)) = .ok ⟨"name LIKE ?", [.string "%a_c%"]⟩ ∧
      like "%a_c%".toList "abc".toList = true ∧
      containsFolded "a_c".toList "abc".toList = false ∧
      ∃ d, document (some (.condition c)) = .ok d ∧
        (Evaluator.of d).matches? record = .ok false := by
  intro c record
  obtain ⟨d, compiled, selects⟩ :=
    exists_document_of_site (rfl : c.operator.site? = some .anywhere) "name" "a_c"
  have small : c.PatternFits :=
    patternFits_of_site (rfl : c.operator.site? = some .anywhere) (by decide)
  exact ⟨rfl, by decide +kernel, by decide +kernel, d, compiled,
    (selects rfl record "abc" rfl).eq_ok small.not_patternError⟩

end Filter

end SchemaFilter
