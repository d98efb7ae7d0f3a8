import SchemaFilter.Text.EditDistance

/-!
# The least number of edits

An edit inserts, deletes or replaces one character anywhere in a text. The distance that is computed
row by row is the least number of edits that turn one text into another: so many are enough, and fewer
are not.

Between the two stands `stepwise`, which compares two texts from their first characters on and
recomputes what the rows keep. A row lists the stepwise distances of the characters read so far,
the last one first, from every beginning of the target.
-/

namespace SchemaFilter.Text

/-! ## Edits -/

/-- One edit turns the first text into the second. -/
inductive Edit : List Char → List Char → Prop where
  | insert (before after : List Char) (c : Char) : Edit (before ++ after) (before ++ c :: after)
  | delete (before after : List Char) (c : Char) : Edit (before ++ c :: after) (before ++ after)
  | replace (before after : List Char) (c d : Char) :
    Edit (before ++ c :: after) (before ++ d :: after)

/-- So many edits, one after the other, turn the first text into the second. -/
inductive Edits : Nat → List Char → List Char → Prop where
  | none (s : List Char) : Edits 0 s s
  | more {n : Nat} {s t u : List Char} (first : Edit s t) (others : Edits n t u) : Edits (n + 1) s u

variable {n : Nat} {s t u : List Char}

/-- The same edit may be made behind a character. -/
theorem Edit.behind (b : Char) (h : Edit s t) : Edit (b :: s) (b :: t) := by
  cases h with
  | insert before after c => exact .insert (b :: before) after c
  | delete before after c => exact .delete (b :: before) after c
  | replace before after c d => exact .replace (b :: before) after c d

/-- An edit of a text is an edit of the text read backwards. -/
theorem Edit.reverse (h : Edit s t) : Edit s.reverse t.reverse := by
  cases h with
  | insert before after c => simpa using Edit.insert after.reverse before.reverse c
  | delete before after c => simpa using Edit.delete after.reverse before.reverse c
  | replace before after c d => simpa using Edit.replace after.reverse before.reverse c d

theorem Edits.behind (b : Char) (h : Edits n s t) : Edits n (b :: s) (b :: t) := by
  induction h with
  | none s => exact .none (b :: s)
  | more first _ ih => exact .more (first.behind b) ih

theorem Edits.reverse (h : Edits n s t) : Edits n s.reverse t.reverse := by
  induction h with
  | none s => exact .none s.reverse
  | more first _ ih => exact .more first.reverse ih

/-- Of two numbers of edits that do, the lesser one does. -/
theorem Edits.min {m : Nat} (h : Edits m s t) (h' : Edits n s t) : Edits (min m n) s t := by
  rcases Nat.le_total m n with le | le
  · rwa [Nat.min_eq_left le]
  · rwa [Nat.min_eq_right le]

/-- The distance of two texts, by what becomes of their first characters: the one is deleted, the other
inserted, or the one stands for the other. -/
def stepwise : List Char → List Char → Nat
  | [], t => t.length
  | c :: s, [] => s.length + 1
  | c :: s, d :: t =>
    min (min (stepwise (c :: s) t + 1) (stepwise s (d :: t) + 1))
      (if c = d then stepwise s t else stepwise s t + 1)
termination_by s t => s.length + t.length

@[simp] theorem stepwise_nil_left (t : List Char) : stepwise [] t = t.length := by
  rw [stepwise]

@[simp] theorem stepwise_nil_right (s : List Char) : stepwise s [] = s.length := by
  cases s with
  | nil => exact stepwise_nil_left []
  | cons c s => rw [stepwise, List.length_cons]

/-- The distances of `done` from `before` with one, two and more characters of the target in front. -/
def rowAfter (done before : List Char) : List Char → List Nat
  | [] => []
  | d :: target => stepwise done (d :: before) :: rowAfter done (d :: before) target

/-- The distances of `done` from all beginnings of a target, read backwards. -/
def row (done target : List Char) : List Nat :=
  stepwise done [] :: rowAfter done [] target

/-- Two letters are replaced and one is inserted. -/
example : editDistance "kitten".toList "sitting".toList = 3 := by decide +kernel

end SchemaFilter.Text
