import SchemaFilter.Proofs.Outcome
import SchemaFilter.Query.Evaluate

/-!
# Reading escaped literals

A compiled filter writes only a small part of what patterns can say: escaped characters, the start
of the text and its end. `Piece` lists these parts, and a text written in pieces is read back piece
by piece: no character of a literal is taken for syntax. Under the option that ignores case every
piece is built into a pattern of its own, and the whole is their sequence.
-/

namespace SchemaFilter.Pattern

/-- A part of the patterns that compiled filters use. -/
inductive Piece where
  | char (c : Char)
  | start
  | finish

namespace Piece

def text : Piece → List Char
  | char c => escape [c]
  | start => ['^']
  | finish => ['$']

def tree : Piece → Tree
  | char c => .literal ⟨c, false⟩
  | start => .anchor .lineStart
  | finish => .anchor .lineEnd

/-- What a piece is built into if case is ignored. -/
def pattern : Piece → Pattern
  | char c => .char (.caseless c)
  | start => .assertion .startText
  | finish => .assertion .endText

end Piece

theorem escape_eq_pieces (cs : List Char) :
    escape cs = (cs.map Piece.char).flatMap Piece.text := by
  induction cs with
  | nil => rfl
  | cons c cs ih =>
    rw [← List.singleton_append, escape_append, ih, List.map_append, List.flatMap_append]
    simp [Piece.text]

/-! ## Reading -/

section Reading

variable {fuel : Nat} {branches parts : List Tree} {rest : List Char} {names : List (List Char)}

theorem body_plain {c : Char} (h : isMeta c = false) :
    body (fuel + 1) branches parts ⟨c :: rest, false, names⟩ =
      body fuel branches (.literal ⟨c, false⟩ :: parts) ⟨rest, false, names⟩ := by
  rw [body]
  simp only [Cursor.settle, Cursor.moveTo, Bool.false_eq_true, if_false]
  split <;> simp_all [isMeta]

theorem body_escaped {c : Char} (h : isMeta c = true) :
    body (fuel + 1) branches parts ⟨'\\' :: c :: rest, false, names⟩ =
      body fuel branches (.literal ⟨c, false⟩ :: parts) ⟨rest, false, names⟩ := by
  have isLiteral : escaped ⟨c :: rest, false, names⟩ =
      some (.literal ⟨c, false⟩, ⟨rest, false, names⟩) := by
    simp [escaped, isEscapable, h, Cursor.skip, Cursor.moveTo]
  rw [body]
  simp only [Cursor.settle, Cursor.moveTo, Bool.false_eq_true, if_false, isLiteral]
  rfl

/-- A piece is read back as it was meant, wherever it stands. -/
theorem body_piece (p : Piece) :
    body (fuel + 1) branches parts ⟨p.text ++ rest, false, names⟩ =
      body fuel branches (p.tree :: parts) ⟨rest, false, names⟩ := by
  cases p with
  | char c =>
    cases h : isMeta c with
    | false => simpa [Piece.text, Piece.tree, escape, h] using body_plain h
    | true => simpa [Piece.text, Piece.tree, escape, h] using body_escaped h
  | start => rfl
  | finish => rfl

/-- A text of pieces is read piece by piece. -/
theorem body_pieces (ps : List Piece) :
    body (ps.length + fuel) branches parts ⟨ps.flatMap Piece.text ++ rest, false, names⟩ =
      body fuel branches ((ps.map Piece.tree).reverse ++ parts) ⟨rest, false, names⟩ := by
  induction ps generalizing parts with
  | nil => simp
  | cons p ps ih =>
    rw [List.length_cons, Nat.add_right_comm, List.flatMap_cons, List.append_assoc, body_piece, ih]
    simp

end Reading

theorem length_text_pos (p : Piece) : 0 < p.text.length := by
  cases p with
  | char c => cases h : isMeta c <;> simp [Piece.text, escape, h]
  | start => simp [Piece.text]
  | finish => simp [Piece.text]

theorem length_le_length_flatMap_text (ps : List Piece) :
    ps.length ≤ (ps.flatMap Piece.text).length := by
  induction ps with
  | nil => simp
  | cons p ps ih =>
    have := length_text_pos p
    simp only [List.flatMap_cons, List.length_append, List.length_cons]
    omega

theorem listDepth_pieces (ps : List Piece) : Tree.listDepth (ps.map Piece.tree) = 0 := by
  induction ps with
  | nil => rfl
  | cons p ps ih => cases p <;> simp [Tree.listDepth, Tree.depth, Piece.tree, ih]

theorem depth_ofParts_pieces (ps : List Piece) :
    (Tree.ofParts (ps.map Piece.tree)).depth ≤ nestingLimit := by
  match ps with
  | [] => simp [Tree.ofParts, Tree.depth]
  | [p] => cases p <;> simp [Tree.ofParts, Tree.depth, Piece.tree]
  | p :: q :: rest =>
    have h := listDepth_pieces (p :: q :: rest)
    simp only [List.map_cons] at h
    simp [Tree.ofParts, Tree.depth, h, nestingLimit]

/-- The tree of a text of pieces lists the trees of the pieces. -/
theorem read?_pieces (ps : List Piece) :
    Tree.read? false (ps.flatMap Piece.text) = some (.ofParts (ps.map Piece.tree)) := by
  obtain ⟨k, hk⟩ := Nat.exists_eq_add_of_le (length_le_length_flatMap_text ps)
  have reading : body ((ps.flatMap Piece.text).length + 1) [] []
      ⟨ps.flatMap Piece.text, false, []⟩ =
        some (.ofParts (ps.map Piece.tree), ⟨[], false, []⟩) := by
    have step := @body_pieces (k + 1) [] [] [] [] ps
    rw [List.append_nil] at step
    rw [hk, Nat.add_assoc, step]
    simp [body, Cursor.settle, Tree.ofBranches]
  rw [Tree.read?, reading]
  simp [depth_ofParts_pieces]

/-! ## Building -/

/-- The settings that the option letter for ignoring case asks for. -/
def caseless : Settings := { ignoreCase := true }

theorem ofOptions_ignoreCase : Settings.ofOptions "i".toList {} = .ok caseless := rfl

theorem build_piece (p : Piece) : p.tree.build caseless = some (p.pattern, caseless) := by
  cases p <;> rfl

theorem buildAll_pieces (ps : List Piece) :
    Tree.buildAll caseless (ps.map Piece.tree) = some (ps.map Piece.pattern, caseless) := by
  induction ps with
  | nil => rfl
  | cons p ps ih => simp [Tree.buildAll, build_piece, ih]

/-- Pieces are built one by one and then follow each other. -/
theorem build_pieces (ps : List Piece) :
    (Tree.ofParts (ps.map Piece.tree)).build caseless =
      some (sequences (ps.map Piece.pattern), caseless) := by
  match ps with
  | [] => rfl
  | [p] => exact build_piece p
  | p :: q :: rest =>
    have h := buildAll_pieces (p :: q :: rest)
    simp only [List.map_cons] at h
    simp [Tree.ofParts, Tree.build, h]

/-- A text of pieces compiles exactly if what it is built into is not too large. -/
theorem compile?_pieces (ps : List Piece) :
    compile? caseless (String.ofList (ps.flatMap Piece.text)) =
      if (sequences (ps.map Piece.pattern)).size ≤ sizeLimit then
        some (sequences (ps.map Piece.pattern)) else none := by
  rw [compile?, String.toList_ofList, show caseless.extended = false from rfl, read?_pieces]
  simp [build_pieces]

/-- All that can go wrong with a text of pieces is that it is too large. -/
theorem ofText_pieces (ps : List Piece) :
    ofText (String.ofList (ps.flatMap Piece.text)) "i" =
      if (sequences (ps.map Piece.pattern)).size ≤ sizeLimit then
        .ok (sequences (ps.map Piece.pattern))
      else .error (.invalidPattern (String.ofList (ps.flatMap Piece.text))) := by
  rw [ofText, ofOptions_ignoreCase, Outcome.ok_bind, compile?_pieces]
  by_cases small : (sequences (ps.map Piece.pattern)).size ≤ sizeLimit
  · rw [if_pos small, if_pos small]
  · rw [if_neg small, if_neg small]

end SchemaFilter.Pattern
