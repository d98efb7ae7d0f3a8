import SchemaFilter.Query.Evaluate

/-!
# Tables of built patterns

An evaluator builds the patterns of its document in advance. Every entry of its table is what
building the pattern on the spot would give, failures included, so looking a pattern up in the table
and building it come to the same, and an evaluator decides about a record as the document does.
-/

namespace SchemaFilter

namespace PatternTable

/-- Every entry of a table is what its text and options are built into. -/
def Faithful (table : PatternTable) : Prop :=
  ∀ e ∈ table, e.2 = Pattern.ofText e.1.1 e.1.2

theorem faithful_nil : Faithful [] := by
  intro e he
  cases he

theorem Faithful.addOperators {table : PatternTable} (h : table.Faithful) (operators : Members) :
    (table.addOperators operators).Faithful := by
  unfold PatternTable.addOperators
  split
  · split
    · exact h
    · intro e he
      rcases List.mem_cons.1 he with rfl | he
      · rfl
      · exact h e he
  · exact h

/-- Whether a property of tables survives the pattern of any one object of operators. -/
def Survives (P : PatternTable → Prop) : Prop :=
  ∀ (table : PatternTable) (operators : Members), P table → P (table.addOperators operators)

variable {P : PatternTable → Prop}

mutual

/-- What survives the pattern of one object of operators survives those of a document. -/
theorem Survives.addMembers (survives : Survives P) {table : PatternTable} (h : P table) :
    (members : List (String × Value)) → P (table.addMembers members)
  | [] => by simpa [PatternTable.addMembers] using h
  | (key, demand) :: rest => by
    simpa [PatternTable.addMembers] using
      survives.addMembers (survives.addDemand h (key == "$and" || key == "$or") demand) rest

theorem Survives.addDemand (survives : Survives P) {table : PatternTable} (h : P table)
    (nested : Bool) : (demand : Value) → P (table.addDemand nested demand)
  | .array documents => by
    cases nested with
    | false => simpa [PatternTable.addDemand] using h
    | true => simpa [PatternTable.addDemand] using survives.addDocuments h documents
  | .object operators => by
    simpa [PatternTable.addDemand] using survives table operators h
  | .null | .bool _ | .number _ | .string _ => by simpa [PatternTable.addDemand] using h

theorem Survives.addDocuments (survives : Survives P) {table : PatternTable} (h : P table) :
    (documents : List Value) → P (table.addDocuments documents)
  | [] => by simpa [PatternTable.addDocuments] using h
  | d :: rest => by
    simpa [PatternTable.addDocuments] using
      survives.addDocuments (survives.addDocument h d) rest

theorem Survives.addDocument (survives : Survives P) {table : PatternTable} (h : P table) :
    (d : Value) → P (table.addDocument d)
  | .object members => by simpa [PatternTable.addDocument] using survives.addMembers h members
  | .null | .bool _ | .number _ | .string _ | .array _ => by
    simpa [PatternTable.addDocument] using h

end

theorem survives_faithful : Survives Faithful :=
  fun _ operators h => h.addOperators operators

theorem faithful_ofDocument (d : Document) : (ofDocument d).Faithful :=
  survives_faithful.addMembers faithful_nil d.members

theorem mem_of_lookup {table : PatternTable} {key : String × String}
    {found : Except QueryError Pattern} (h : table.lookup key = some found) :
    (key, found) ∈ table := by
  induction table with
  | nil => simp at h
  | cons e rest ih =>
    obtain ⟨k, p⟩ := e
    rw [List.lookup_cons] at h
    by_cases same : key = k
    · subst same
      simp at h
      simp [h]
    · rw [beq_eq_false_iff_ne.2 same] at h
      exact List.mem_cons_of_mem _ (ih h)

theorem Faithful.source_eq {table : PatternTable} (h : table.Faithful) :
    table.source = Pattern.ofText := by
  funext pattern options
  unfold source
  split
  · next found hfound => exact h _ (mem_of_lookup hfound)
  · rfl

end PatternTable

/-- An evaluator decides about a record as its document does. -/
@[simp] theorem Evaluator.matches?_of (d : Document) (record : Value) :
    (Evaluator.of d).matches? record = d.matches? record := by
  rw [Evaluator.matches?, Evaluator.of, (PatternTable.faithful_ofDocument d).source_eq,
    Document.matches?]

end SchemaFilter
