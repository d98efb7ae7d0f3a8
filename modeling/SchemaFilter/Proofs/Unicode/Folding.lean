import SchemaFilter.Unicode.CaseFolding

/-!
# Characters that only fold to themselves

Folding takes letters to letters. A character of ASCII that is no letter stays what it is, and no other
character is folded to it, so comparing up to case tells it apart from all others. For the characters
beyond ASCII this is a matter of the table, which is gone through line by line.
-/

namespace SchemaFilter.Unicode

open Text (pieces)

/-- Whether something else may fold to a character. -/
def isTarget (c : Char) : Bool :=
  c.isAlpha || 128 ≤ c.toNat

/-- Whether the classes that a line of the table writes are led by such characters. -/
def isSoundLine (line : List Char) : Bool :=
  (words line).all fun word =>
    (pieces '=' word).head?.all fun first => isTarget (Char.ofNat (hexNumber first))

/-- A line is checked by its characters, which are faster to get at than those of a text. -/
theorem isSoundLine_of_eq_ofList {line : String} {cs : List Char} (h : line = String.ofList cs)
    (sound : isSoundLine cs = true) : isSoundLine line.toList = true := by
  rwa [h, String.toList_ofList]

theorem isSoundLine_of_mem : ∀ line ∈ foldingLines, isSoundLine line.toList = true := by
  unfold foldingLines
  repeat refine List.forall_mem_cons.2 ⟨isSoundLine_of_eq_ofList rfl (by decide +kernel), ?_⟩
  exact List.forall_mem_nil _

theorem isTarget_of_foldingClass? {c target : Char} {others : List Char}
    (h : foldingClass? c = some (target :: others)) : isTarget target = true := by
  obtain ⟨i, -, found⟩ := Option.bind_eq_some_iff.1 h
  rw [foldingClasses, List.getElem?_toArray] at found
  obtain ⟨line, hline, found⟩ := List.mem_flatMap.1 (List.mem_of_getElem? found)
  obtain ⟨word, hword, members⟩ := List.mem_map.1 found
  obtain ⟨first, rest, hpieces, rfl, -⟩ := List.map_eq_cons_iff.1 members
  have sound := List.all_eq_true.1 (isSoundLine_of_mem line hline) word hword
  rwa [hpieces] at sound

/-- Within ASCII only letters are folded to something else, which is a letter too. -/
theorem toLower_eq_or_isAlpha {c : Char} (ascii : c.toNat < 128) :
    c.toLower = c ∨ c.isAlpha = true ∧ c.toLower.isAlpha = true := by
  have all : ∀ n < 128, (Char.ofNat n).toLower = Char.ofNat n ∨
      (Char.ofNat n).isAlpha = true ∧ (Char.ofNat n).toLower.isAlpha = true := by decide
  simpa using all c.toNat ascii

/-- A character of ASCII that is no letter is what it folds to, and nothing else folds to it. -/
theorem fold_eq_fold_iff {c d : Char} (ascii : d.toNat < 128) (noLetter : d.isAlpha = false) :
    fold c = fold d ↔ c = d := by
  have itself : fold d = d := by
    rw [fold, if_pos ascii]
    rcases toLower_eq_or_isAlpha ascii with same | ⟨letter, -⟩
    · exact same
    · exact absurd letter (Bool.eq_false_iff.1 noLetter)
  rw [itself]
  constructor
  · intro h
    unfold fold at h
    split at h
    · next small =>
      rcases toLower_eq_or_isAlpha small with same | ⟨-, letter⟩
      · exact same.symm.trans h
      · rw [h, noLetter] at letter
        cases letter
    · next large =>
      split at h
      · next target others found =>
        have led := isTarget_of_foldingClass? found
        rw [h, isTarget, noLetter] at led
        simp at led
        omega
      · exact h
  · rintro rfl
    exact itself

end SchemaFilter.Unicode
