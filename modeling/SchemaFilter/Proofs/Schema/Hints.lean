import Mathlib.Data.List.Forall2
import SchemaFilter.Diagnostic
import SchemaFilter.Proofs.Filter.Blame
import SchemaFilter.Proofs.Filter.OnePass
import SchemaFilter.Proofs.Schema.SoundFields
import SchemaFilter.Proofs.Text.EditDistance

/-!
# Hints

Validation tags a fault with a name only if a condition has that name for its field and the schema does
not declare it. A diagnostic of such a fault has a hint if some field that may be filtered has a name
not further than three edits away, both names in lower case, and it hints at the first of the
nearest such fields. The name of a hidden field is therefore never hinted at, and the undeclared
name itself is not either.
-/

namespace SchemaFilter

/-! ## Nearest fields -/

/-- The least number of edits that turn one name into another, both in lower case. -/
structure IsDistance (n : Nat) (a b : String) : Prop where
  enough : Text.Edits n (Unicode.toLower a) (Unicode.toLower b)
  least : ∀ m, Text.Edits m (Unicode.toLower a) (Unicode.toLower b) → n ≤ m

namespace Schema

variable {s : Schema} {name hint : String} {fault : Fault}

/-- The first of the fields that may be filtered and have the least distance from a name. -/
def IsNearest (s : Schema) (name : String) (f : Field) : Prop :=
  ∃ before after n, s.fields = before ++ f :: after ∧ f.filterable = true ∧
    IsDistance n name f.name ∧
    (∀ g ∈ before, g.filterable = true → ∀ m, IsDistance m name g.name → n < m) ∧
    ∀ g ∈ after, g.filterable = true → ∀ m, IsDistance m name g.name → n ≤ m

theorem IsNearest.visible {f : Field} (h : s.IsNearest name f) :
    f ∈ s.fields ∧ f.filterable = true := by
  obtain ⟨before, after, n, fields, filterable, -⟩ := h
  exact ⟨by simp [fields], filterable⟩

variable {stands : Condition → Filter.Place → Prop} {report : List Fault}

end Schema

end SchemaFilter
