import SchemaFilter.Unicode.CaseFolding

/-!
# Texts up to case

A text begins with another one up to case, ends with it or contains it, if it does so once the
characters of both are folded. Folding takes one character to one character, so places in a text
stay what they are.
-/

namespace SchemaFilter.Text

/-- A text with all of its characters folded. -/
def folded (cs : List Char) : List Char :=
  cs.map Unicode.fold

@[simp] theorem length_folded (cs : List Char) : (folded cs).length = cs.length := by
  simp [folded]

@[simp] theorem folded_append (first second : List Char) :
    folded (first ++ second) = folded first ++ folded second := by
  simp [folded]

/-- Whether a text holds a part somewhere. -/
def occursIn (part : List Char) : List Char → Bool
  | [] => part.isEmpty
  | c :: rest => part.isPrefixOf (c :: rest) || occursIn part rest

theorem occursIn_iff {part text : List Char} : occursIn part text = true ↔ part <:+: text := by
  induction text with
  | nil => simp [occursIn]
  | cons c rest ih => simp [occursIn, ih, List.infix_cons_iff]

def beginsFolded (part text : List Char) : Bool :=
  (folded part).isPrefixOf (folded text)

def endsFolded (part text : List Char) : Bool :=
  (folded part).isSuffixOf (folded text)

/-- Whether a text contains a part, case aside. -/
def containsFolded (part text : List Char) : Bool :=
  occursIn (folded part) (folded text)

end SchemaFilter.Text
