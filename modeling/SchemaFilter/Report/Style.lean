import SchemaFilter.Text.Blank

/-!
# Styles

The colors of reports as terminal escapes, and texts of a fixed width. Widths count characters.
-/

namespace SchemaFilter.Report

/-- A text between two terminal escapes, each given by its number. -/
def escaped (start stop : String) (s : String) : String :=
  "\x1b[" ++ start ++ "m" ++ s ++ "\x1b[" ++ stop ++ "m"

def dimmed (colored : Bool) (s : String) : String :=
  if colored then escaped "2" "0" s else s

def green (colored : Bool) (s : String) : String :=
  if colored then escaped "32" "39" s else s

def yellow (colored : Bool) (s : String) : String :=
  if colored then escaped "33" "39" s else s

/-- A text in bold green, if colors are on. -/
def title (colored : Bool) (s : String) : String :=
  if colored then escaped "1" "0" (green true s) else s

/-- A text with blanks behind it up to a width. -/
def padded (width : Nat) (cs : List Char) : List Char :=
  cs ++ List.replicate (width - cs.length) ' '

@[simp] theorem length_padded (width : Nat) (cs : List Char) :
    (padded width cs).length = max width cs.length := by
  simp [padded]; omega

/-- A text of at most a given length; a longer one loses its end, and three points show it. -/
def truncated (limit : Nat) (cs : List Char) : List Char :=
  if limit < cs.length then cs.take (limit - 3) ++ ['.', '.', '.'] else cs

/-- The three points fit if there is room for them at all. -/
theorem length_truncated {limit : Nat} (h : 3 ≤ limit) (cs : List Char) :
    (truncated limit cs).length = min limit cs.length := by
  rw [truncated]
  split
  · simp only [List.length_append, List.length_take, List.length_cons, List.length_nil]
    omega
  · omega

theorem truncated_of_length_le {limit : Nat} {cs : List Char} (h : cs.length ≤ limit) :
    truncated limit cs = cs := by
  simp [truncated]; omega

end SchemaFilter.Report
