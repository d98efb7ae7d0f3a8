import SchemaFilter.Proofs.Filter.OnePass
import SchemaFilter.Proofs.Query.Placeholders
import SchemaFilter.Proofs.Query.ReachedPatterns
import SchemaFilter.Repository

/-!
# Ways to use a filter

A repository finds and counts records, and it compiles filters. All of this goes through one check:
a filter with faults is rejected with these faults whatever is wanted of it, and behind the check
nothing fails any more, since a filter without faults compiles to either target and its document
answers for every record. Only a pattern that is too large may still keep records from being found.

A filter may also come as a value, which is validated while it is read. What has been read is then
checked once more, and this check always passes.
-/

namespace SchemaFilter.Repository

/-- Whether a filter is rejected with the same faults whatever is wanted of it. -/
structure Rejects (r : Repository) (filter : Option Filter) (faults : List Fault) : Prop where
  find : r.find filter = .error (.invalidFilter faults)
  count : r.count filter = .error (.invalidFilter faults)
  clause : r.clause filter = .error (.invalidFilter faults)
  compile (target : Target) : r.compile filter target = .error (.invalidFilter faults)

/-- Whether a filter compiles to a clause, and to either target. -/
structure Compiles (r : Repository) (filter : Option Filter) : Prop where
  clause : ∃ c, r.clause filter = .ok c
  compile (target : Target) : ∃ compiled, r.compile filter target = .ok compiled ∧
    compiled.target = target

/-- Whether certain records, each with its index, are found and counted for a filter. They are those
that it selects, in their order. -/
structure Finds (r : Repository) (filter : Option Filter) (found : List (Value × Nat)) : Prop where
  find : r.find filter = .ok found
  count : r.count filter = .ok found.length
  selected : found = r.records.zipIdx.filter fun entry => entry.1.isSelectedBy filter
  inOrder : (found.map Prod.fst).Sublist r.records

variable {r : Repository} {filter : Option Filter}

theorem check_of_valid (valid : r.schema.faults filter = []) : r.check filter = .ok () := by
  rw [check, valid]

theorem check_of_invalid (invalid : r.schema.faults filter ≠ []) :
    r.check filter = .error (.invalidFilter (r.schema.faults filter)) := by
  rw [check]
  split
  · next valid => exact absurd valid invalid
  · rfl

theorem compile_sql (r : Repository) (filter : Option Filter) :
    r.compile filter .sql = (r.clause filter).map .clause := by
  rw [compile, clause]
  cases r.check filter with
  | error e => rfl
  | ok _ =>
    simp only [Outcome.ok_bind, Target.compile]
    cases Filter.clause filter with
    | error e => rfl
    | ok c => rfl

theorem count_eq_find (r : Repository) (filter : Option Filter) :
    r.count filter = (r.find filter).map List.length := by
  rw [count]
  cases r.find filter with
  | error e => rfl
  | ok found => rfl

/-- A filter with faults does not pass the check, and everything starts with the check. -/
theorem rejects_of_invalid (invalid : r.schema.faults filter ≠ []) :
    r.Rejects filter (r.schema.faults filter) := by
  have rejected := check_of_invalid invalid
  have unfound : r.find filter = .error (.invalidFilter (r.schema.faults filter)) := by
    rw [find, rejected, Outcome.error_bind]
  refine ⟨unfound, ?_, ?_, fun target => ?_⟩
  · rw [count_eq_find, unfound]
    rfl
  · rw [clause, rejected, Outcome.error_bind]
  · rw [compile, rejected, Outcome.error_bind]

theorem exists_compile_of_valid {s : Schema} (valid : s.faults filter = []) (target : Target) :
    ∃ compiled, target.compile filter = .ok compiled ∧ compiled.target = target := by
  cases target with
  | mongo =>
    obtain ⟨d, compiled⟩ := Filter.exists_document_of_valid valid
    exact ⟨.document d, by rw [Target.compile, compiled]; rfl, rfl⟩
  | sql =>
    obtain ⟨c, compiled⟩ := Filter.exists_clause_of_valid valid
    exact ⟨.clause c, by rw [Target.compile, compiled]; rfl, rfl⟩

theorem compiles_of_valid (valid : r.schema.faults filter = []) : r.Compiles filter := by
  constructor
  · obtain ⟨c, compiled⟩ := Filter.exists_clause_of_valid valid
    refine ⟨c, ?_⟩
    rw [clause, check_of_valid valid, Outcome.ok_bind, compiled]
    rfl
  · intro target
    obtain ⟨compiled, hcompiled, same⟩ := exists_compile_of_valid valid target
    refine ⟨compiled, ?_, same⟩
    rw [compile, check_of_valid valid, Outcome.ok_bind, hcompiled]
    rfl

theorem select_of_answers {d : Document}
    (answers : ∀ record : Value,
      (Evaluator.of d).matches? record = .ok (record.isSelectedBy filter)) (records : List Value) :
    (Evaluator.of d).select records =
      .ok (records.zipIdx.filter fun entry => entry.1.isSelectedBy filter) := by
  rw [Evaluator.select]
  apply filterChecked_of_answers
  intro entry
  exact answers entry.1

/-- What is found are records of the repository, in their order. -/
theorem sublist_of_find {found : List (Value × Nat)} (h : r.find filter = .ok found) :
    (found.map Prod.fst).Sublist r.records := by
  obtain ⟨-, -, h⟩ := Outcome.bind_eq_ok_iff.1 h
  obtain ⟨d, -, h⟩ := Outcome.bind_eq_ok_iff.1 h
  have selected : (Evaluator.of d).select r.records = .ok found := Outcome.mapError_eq_ok_iff.1 h
  rw [Evaluator.select_of, filterChecked_eq_ok_iff] at selected
  obtain ⟨-, rfl⟩ := selected
  simpa only [List.zipIdx_map_fst] using
    (List.filter_sublist (l := r.records.zipIdx)).map Prod.fst

/-- Without their indices these are the records that the filter selects. -/
theorem map_fst_filter_zipIdx (filter : Option Filter) (records : List Value) :
    (records.zipIdx.filter fun entry => entry.1.isSelectedBy filter).map Prod.fst =
      records.filter fun record => record.isSelectedBy filter := by
  have kept := (List.filter_map (p := fun record : Value => record.isSelectedBy filter)
    (f := Prod.fst) (l := records.zipIdx)).symm
  rwa [List.zipIdx_map_fst] at kept

/-- For a filter without faults the records are found that it selects, if its patterns are not too
large. -/
theorem finds_of_valid (unreserved : ∀ f ∈ r.schema.fields, isReserved f.name = false)
    (valid : r.schema.faults filter = [])
    (small : ∀ c ∈ Filter.allLeaves filter, c.PatternFits) :
    r.Finds filter (r.records.zipIdx.filter fun entry => entry.1.isSelectedBy filter) := by
  obtain ⟨d, compiled⟩ := Filter.exists_document_of_valid valid
  have selected := select_of_answers
    (Filter.matches?_of_valid unreserved valid small compiled) r.records
  have found : r.find filter =
      .ok (r.records.zipIdx.filter fun entry => entry.1.isSelectedBy filter) := by
    rw [find, check_of_valid valid, Outcome.ok_bind, compiled]
    simp only [Outcome.mapError_ok, Outcome.ok_bind, selected]
  refine ⟨found, ?_, rfl, sublist_of_find found⟩
  rw [count_eq_find, found]
  rfl

/-- A value that is no acceptable filter is rejected with the faults that validation reports. -/
theorem findValue_of_error {v : Value} {faults : List Fault}
    (h : r.schema.validateValue v = .error faults) :
    r.findValue v = .error (.invalidFilter faults) := by
  rw [findValue, h]
  rfl

theorem findValue_of_ok {v : Value} (h : r.schema.validateValue v = .ok filter) :
    r.findValue v = r.find filter := by
  rw [findValue, h]
  rfl

/-- Whatever is wanted of a filter, a repository with a checked schema rejects it with its faults if
it has any. Otherwise it compiles, and if its patterns are not too large, the records that it selects
are found and counted. A value is rejected with the faults of its validation, or else the records are
found that are found for the filter read from it, which has no faults. -/
theorem outcome_of_faults {entity : Option String} {fields : List Field} {s : Schema}
    (checked : Schema.define entity fields = .ok s) (records : List Value) :
    let r : Repository := ⟨s, records⟩
    (∀ filter, (s.faults filter ≠ [] → r.Rejects filter (s.faults filter)) ∧
      (s.faults filter = [] → r.Compiles filter ∧
        ((∀ c ∈ Filter.allLeaves filter, c.PatternFits) → ∃ found, r.Finds filter found)) ∧
      r.count filter = (r.find filter).map List.length ∧
      r.compile filter .sql = (r.clause filter).map .clause) ∧
    ∀ v, match s.validateValue v with
      | .error faults => r.findValue v = .error (.invalidFilter faults)
      | .ok filter => Filter.decode v = .ok filter ∧ s.faults filter = [] ∧
        r.findValue v = r.find filter := by
  intro r
  have unreserved := Schema.isReserved_eq_false_of_define checked
  constructor
  · intro filter
    refine ⟨rejects_of_invalid (r := r), fun valid => ⟨compiles_of_valid valid, fun small => ?_⟩,
      r.count_eq_find filter, r.compile_sql filter⟩
    exact ⟨_, finds_of_valid unreserved valid small⟩
  · intro v
    cases h : s.validateValue v with
    | error faults => exact findValue_of_error h
    | ok filter =>
      obtain ⟨decoded, valid⟩ := Schema.decode_of_validateValue h
      exact ⟨decoded, valid, findValue_of_ok h⟩

/-- One filter with a pattern that finds two of three records, one with a field that the schema lacks,
and a value that is no filter. -/
theorem outcome_of_three_records :
    let fields : List Field :=
      [{ name := "name", type := .string }, { name := "age", type := .number }]
    let s : Schema := ⟨some "user", fields⟩
    let r : Repository := ⟨s, [.object [("name", .string "Bob"), ("age", .ofNat 28)], .object [],
      .object [("name", .string "Alice"), ("age", .ofNat 34)]]⟩
    let filter : Filter := .any [.condition ⟨"age", .gte, some (.ofNat 30)⟩,
      .condition ⟨"name", .startsWith, some (.string "bO")⟩]
    let other : Filter := .condition ⟨"role", .isNull, none⟩
    Schema.define (some "user") fields = .ok s ∧
      (s.faults (some filter) = [] ∧ (∀ c ∈ Filter.allLeaves (some filter), c.PatternFits) ∧
        r.Compiles (some filter) ∧
          ∃ found, r.Finds (some filter) found ∧ found.map Prod.snd = [0, 2]) ∧
      (s.faults (some other) ≠ [] ∧ r.Rejects (some other) (s.faults (some other))) ∧
      ∃ faults, s.validateValue (.object []) = .error faults ∧
        r.findValue (.object []) = .error (.invalidFilter faults) := by
  intro fields s r filter other
  have checked : Schema.define (some "user") fields = .ok s := rfl
  have valid : s.faults (some filter) = [] := by decide
  have invalid : s.faults (some other) ≠ [] := by decide
  have small : ∀ c ∈ Filter.allLeaves (some filter), c.PatternFits := by
    intro c hc site text hsite htext
    simp only [Filter.allLeaves, filter, Filter.any, Filter.leaves_group, Filter.children_some,
      Filter.children_none, List.flatMap_cons, Filter.leaves_condition, List.flatMap_nil,
      List.singleton_append, List.append_nil, List.nil_append, List.mem_cons, List.not_mem_nil,
      or_false] at hc
    rcases hc with rfl | rfl
    · cases hsite
    · cases hsite
      cases htext
      decide
  obtain ⟨outcome, outcomeOfValue⟩ := outcome_of_faults checked r.records
  obtain ⟨-, accepted, -⟩ := outcome (some filter)
  obtain ⟨rejected, -⟩ := outcome (some other)
  obtain ⟨compiles, finds⟩ := accepted valid
  obtain ⟨found, hfound⟩ := finds small
  have places : found.map Prod.snd = [0, 2] := by
    rw [hfound.selected]
    decide +kernel
  exact ⟨checked, ⟨valid, small, compiles, found, hfound, places⟩, ⟨invalid, rejected invalid⟩,
    _, rfl, outcomeOfValue (.object [])⟩

end SchemaFilter.Repository
