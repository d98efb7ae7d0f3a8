/-!
# Literal patterns

The characters that mean something in a pattern stand for themselves after a backslash.
-/

namespace SchemaFilter.Pattern

/-- Whether a character means something in a pattern. -/
def isMeta (c : Char) : Bool :=
  ['\\', '.', '+', '*', '?', '(', ')', '|', '[', ']', '\x7b', '\x7d', '^', '$', '#', '&', '-',
    '~'].contains c

/-- The pattern text that stands for a text itself. -/
def escape (cs : List Char) : List Char :=
  cs.flatMap fun c => if isMeta c then ['\\', c] else [c]

@[simp] theorem escape_nil : escape [] = [] := rfl

@[simp] theorem escape_append (first second : List Char) :
    escape (first ++ second) = escape first ++ escape second := by
  simp [escape]

end SchemaFilter.Pattern
