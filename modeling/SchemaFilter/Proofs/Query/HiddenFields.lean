import Mathlib.Data.List.Forall2
import SchemaFilter.Proofs.Repository

/-!
# Hidden fields

A schema shows a field to filters if it declares the field and makes it filterable. What a
repository answers depends on the fields that are shown and on nothing else: records that agree on
them are found or passed over alike, and a filter that is rejected is rejected before any record is
looked at.

Three facts make this up. Evaluating a document reads the fields that the document names, at any
depth. The document of a filter names no other fields than the conditions of the filter. And all of
these are shown if the filter has no faults.
-/

namespace SchemaFilter

namespace Document

mutual

def membersNames : List (String × Value) → List String
  | [] => []
  | (key, demand) :: rest =>
    (if key = "$and" ∨ key = "$or" then listNames demand else [key]) ++ membersNames rest

def listNames : Value → List String
  | .array documents => documentsNames documents
  | _ => []

def documentsNames : List Value → List String
  | [] => []
  | d :: rest => documentNames d ++ documentsNames rest

def documentNames : Value → List String
  | .object members => membersNames members
  | _ => []

end

variable {find : PatternSource} {record record' : Value}

mutual

/-- Evaluating members reads only the fields that they name. -/
theorem membersHold_congr : (members : List (String × Value)) →
    (∀ name ∈ membersNames members, record.field name = record'.field name) →
      membersHold find record members = membersHold find record' members
  | [], _ => by simp [membersHold]
  | (key, demand) :: rest, agree => by
    rw [membersNames, List.forall_mem_append] at agree
    have tail := membersHold_congr rest agree.2
    simp only [membersHold, tail]
    by_cases conjunction : key = "$and"
    · rw [if_pos (.inl conjunction)] at agree
      simp only [if_pos conjunction, listHolds_congr "$and" true demand agree.1]
    · by_cases disjunction : key = "$or"
      · rw [if_pos (.inr disjunction)] at agree
        simp only [if_neg conjunction, if_pos disjunction,
          listHolds_congr "$or" false demand agree.1]
      · rw [if_neg (by simp [conjunction, disjunction]), List.forall_mem_singleton] at agree
        simp only [if_neg conjunction, if_neg disjunction, agree.1]

theorem listHolds_congr (key : String) (conjunction : Bool) : (list : Value) →
    (∀ name ∈ listNames list, record.field name = record'.field name) →
      listHolds find record key conjunction list = listHolds find record' key conjunction list
  | .array documents, agree => by
    simp only [listHolds]
    exact documentsHold_congr conjunction documents agree
  | .null, _ | .bool _, _ | .number _, _ | .string _, _ | .object _, _ => by simp [listHolds]

theorem documentsHold_congr (conjunction : Bool) : (documents : List Value) →
    (∀ name ∈ documentsNames documents, record.field name = record'.field name) →
      documentsHold find record conjunction documents =
        documentsHold find record' conjunction documents
  | [], _ => by simp [documentsHold]
  | d :: rest, agree => by
    rw [documentsNames, List.forall_mem_append] at agree
    simp only [documentsHold, documentHolds_congr d agree.1,
      documentsHold_congr conjunction rest agree.2]

theorem documentHolds_congr : (d : Value) →
    (∀ name ∈ documentNames d, record.field name = record'.field name) →
      documentHolds find record d = documentHolds find record' d
  | .object members, agree => by
    simp only [documentHolds]
    exact membersHold_congr members agree
  | .null, _ | .bool _, _ | .number _, _ | .string _, _ | .array _, _ => by simp [documentHolds]

end

end Document

/-! ## Compiled documents -/

/-- What a condition demands of its field is never a list of documents, if its operand fits. -/
theorem Condition.listNames_demand {c : Condition} {demand : Value}
    (fits : c.operator.Fits Value.IsScalar c.operand) (compiled : c.demand = .ok demand) :
    Document.listNames demand = [] := by
  cases hop : c.operator with
  | eq =>
    rw [hop] at fits
    obtain ⟨v, hv, text, scalar⟩ := fits
    simp only [Condition.demand, hop, value, hv, Except.ok.injEq] at compiled
    subst compiled
    cases v with
    | array items => cases scalar
    | _ => simp [Document.listNames]
  | isNull | isNotNull =>
    simp only [Condition.demand, hop, Outcome.pure_eq_ok, Except.ok.injEq] at compiled
    subst compiled
    simp [Document.listNames, single]
  | between =>
    simp only [Condition.demand, hop, Outcome.bind_eq_ok_iff, Outcome.pure_eq_ok,
      Except.ok.injEq] at compiled
    obtain ⟨⟨low, high⟩, -, rfl⟩ := compiled
    simp [Document.listNames]
  | neq | gt | lt | gte | lte | isIn | contains | startsWith | endsWith =>
    simp only [Condition.demand, hop, Outcome.bind_eq_ok_iff, Outcome.pure_eq_ok,
      Except.ok.injEq] at compiled
    obtain ⟨operand, -, rfl⟩ := compiled
    simp [Document.listNames, single, ignoringCase]

namespace Filter

open Document

/-- Whether the document of a filter names only fields of the filter's conditions. -/
def NamesItsFields (f : Filter) : Prop :=
  ∀ members, f.documentMembers = .ok members →
    ∀ name ∈ membersNames members, ∃ c ∈ f.leaves, c.field = name

theorem namesItsFields_condition {c : Condition}
    (fits : c.operator.Fits Value.IsScalar c.operand) : (condition c).NamesItsFields := by
  intro members compiled name hname
  obtain ⟨demand, hdemand, rfl⟩ := documentMembers_condition_eq_ok_iff.1 compiled
  rw [membersNames, c.listNames_demand fits hdemand, membersNames, List.append_nil] at hname
  split at hname
  · cases hname
  · exact ⟨c, by simp, (List.mem_singleton.1 hname).symm⟩

theorem names_documentList {list : List Filter} (h : ∀ f ∈ list, f.NamesItsFields)
    {documents : List Value} (compiled : documentList list = .ok documents) :
    ∀ name ∈ documentsNames documents, ∃ c ∈ list.flatMap leaves, c.field = name := by
  induction list generalizing documents with
  | nil =>
    cases compiled
    simp [documentsNames]
  | cons child rest ih =>
    obtain ⟨members, others, hmembers, hothers, rfl⟩ := documentList_cons_eq_ok_iff.1 compiled
    intro name hname
    rw [documentsNames, documentNames, List.mem_append] at hname
    rcases hname with hname | hname
    · obtain ⟨c, hc, same⟩ := h child List.mem_cons_self members hmembers name hname
      exact ⟨c, List.mem_flatMap.2 ⟨child, List.mem_cons_self, hc⟩, same⟩
    · obtain ⟨c, hc, same⟩ := ih (fun f hf => h f (List.mem_cons_of_mem child hf)) hothers name hname
      exact ⟨c, by rw [List.flatMap_cons]; exact List.mem_append_right _ hc, same⟩

theorem names_documentBranch (conjunction : Bool) {branch : Option (List Filter)}
    (h : ∀ f ∈ children branch, f.NamesItsFields) {members : Members}
    (compiled : documentBranch (branchKey conjunction) branch = .ok members) :
    ∀ name ∈ membersNames members, ∃ c ∈ (children branch).flatMap leaves, c.field = name := by
  cases branch with
  | none =>
    cases compiled
    simp [membersNames]
  | some list =>
    obtain ⟨documents, hdocuments, rfl⟩ := documentBranch_some_eq_ok_iff.1 compiled
    have key : branchKey conjunction = "$and" ∨ branchKey conjunction = "$or" := by
      cases conjunction <;> simp [branchKey]
    rw [membersNames, if_pos key, listNames, membersNames, List.append_nil]
    exact names_documentList h hdocuments

theorem membersNames_append (first second : Members) :
    membersNames (first ++ second) = membersNames first ++ membersNames second := by
  induction first with
  | nil => simp [membersNames]
  | cons e rest ih =>
    obtain ⟨key, demand⟩ := e
    rw [List.cons_append, membersNames, ih, membersNames, List.append_assoc]

/-- The document of a filter names no other fields than the filter, if all operands fit. -/
theorem namesItsFields {f : Filter}
    (h : ∀ c ∈ f.leaves, c.operator.Fits Value.IsScalar c.operand) : f.NamesItsFields := by
  induction f with
  | condition c => exact namesItsFields_condition (h c (by simp))
  | group conjuncts disjuncts first second =>
    rw [forall_leaves_group] at h
    intro members compiled name hname
    obtain ⟨conjunction, disjunction, hconjunction, hdisjunction, rfl⟩ :=
      documentMembers_group_eq_ok_iff.1 compiled
    rw [membersNames_append, List.mem_append] at hname
    simp only [leaves_group, List.mem_append]
    rcases hname with hname | hname
    · obtain ⟨c, hc, same⟩ := names_documentBranch true (fun f hf => first f hf (h.1 f hf))
        hconjunction name hname
      exact ⟨c, .inl hc, same⟩
    · obtain ⟨c, hc, same⟩ := names_documentBranch false (fun f hf => second f hf (h.2 f hf))
        hdisjunction name hname
      exact ⟨c, .inr hc, same⟩

end Filter

/-! ## Repositories -/

namespace Schema

def Shows (s : Schema) (name : String) : Prop :=
  ∃ f, s.field? name = some f ∧ f.filterable = true

/-- Whether two records read the same on every field that a schema shows. -/
def LookAlike (s : Schema) (record record' : Value) : Prop :=
  ∀ name, s.Shows name → record.field name = record'.field name

/-- The document of a filter without faults holds of both or neither of two records that look
alike, or evaluating it fails alike. -/
theorem LookAlike.matches?_eq {s : Schema} {filter : Option Filter} {d : Document}
    {record record' : Value} (alike : s.LookAlike record record') (valid : s.faults filter = [])
    (compiled : Filter.document filter = .ok d) :
    (Evaluator.of d).matches? record = (Evaluator.of d).matches? record' := by
  rw [Evaluator.matches?_of, Evaluator.matches?_of]
  apply Document.membersHold_congr
  cases filter with
  | none =>
    cases compiled
    simp [Document.empty, Document.membersNames]
  | some f =>
    obtain ⟨members, hmembers, rfl⟩ := Filter.document_some_eq_ok_iff.1 compiled
    have allowed := faults_eq_nil_iff.1 valid
    intro name hname
    obtain ⟨c, hc, rfl⟩ :=
      Filter.namesItsFields (fun c hc => (allowed c hc).fits) members hmembers name hname
    obtain ⟨field, hfield, filterable, -, -⟩ := allowed c hc
    exact alike c.field ⟨field, hfield, filterable⟩

end Schema

/-- Tests that answer alike, one by one, let the same places through or fail alike. -/
theorem filterChecked_places_eq {ε α β : Type} {test : α × Nat → Except ε Bool}
    {test' : β × Nat → Except ε Bool} {list : List (α × Nat)} {list' : List (β × Nat)}
    (h : List.Forall₂ (fun e e' => e.2 = e'.2 ∧ test e = test' e') list list') :
    (filterChecked test list).map (List.map Prod.snd) =
      (filterChecked test' list').map (List.map Prod.snd) := by
  induction h with
  | nil => rfl
  | @cons e e' rest rest' head _ ih =>
    obtain ⟨place, same⟩ := head
    rw [filterChecked, filterChecked, same]
    cases test' e' with
    | error error => rfl
    | ok hit =>
      rw [Outcome.ok_bind, Outcome.ok_bind]
      -- a later entry may fail, and then it does so on both sides
      cases found : filterChecked test rest with
      | error error =>
        rw [found] at ih
        cases found' : filterChecked test' rest' with
        | error error' => rw [found'] at ih; exact ih
        | ok others' => rw [found'] at ih; cases ih
      | ok others =>
        rw [found] at ih
        cases found' : filterChecked test' rest' with
        | error error' => rw [found'] at ih; cases ih
        | ok others' =>
          rw [found'] at ih
          have tail : others.map Prod.snd = others'.map Prod.snd := Except.ok.inj ih
          cases hit with
          | false => exact congrArg Except.ok tail
          | true => exact congrArg Except.ok (congrArg₂ List.cons place tail)

theorem forall₂_zipIdx {α β : Type} {R : α → β → Prop} {list : List α} {list' : List β}
    (h : List.Forall₂ R list list') (start : Nat) :
    List.Forall₂ (fun e e' => e.2 = e'.2 ∧ R e.1 e'.1) (list.zipIdx start)
      (list'.zipIdx start) := by
  induction h generalizing start with
  | nil => exact .nil
  | cons head _ ih => exact .cons ⟨rfl, head⟩ (ih (start + 1))

namespace Repository

/-- The places of the records that a repository finds, or why it finds none. -/
def places (r : Repository) (filter : Option Filter) : Except RepositoryError (List Nat) :=
  (r.find filter).map (List.map Prod.snd)

theorem count_eq (r : Repository) (filter : Option Filter) :
    r.count filter = (r.places filter).map List.length := by
  rw [count_eq_find, places]
  cases r.find filter with
  | error e => rfl
  | ok found => simp [Except.map]

/-- The places of the records that match the document of a filter without faults. -/
theorem places_eq {r : Repository} {filter : Option Filter} {d : Document}
    (valid : r.schema.faults filter = []) (compiled : Filter.document filter = .ok d) :
    r.places filter =
      (((Evaluator.of d).select r.records).map (List.map Prod.snd)).mapError .query := by
  rw [places, find, check_of_valid valid, compiled]
  simp only [Outcome.ok_bind, Outcome.mapError_ok]
  cases (Evaluator.of d).select r.records with
  | error e => rfl
  | ok found => rfl

/-- Repositories of one schema whose records look alike, one by one, find and count the same for
every filter, or reject it with the same error. -/
theorem outcome_eq_of_lookAlike {s : Schema} {records records' : List Value}
    (alike : List.Forall₂ s.LookAlike records records') (filter : Option Filter) :
    places ⟨s, records⟩ filter = places ⟨s, records'⟩ filter ∧
      count ⟨s, records⟩ filter = count ⟨s, records'⟩ filter := by
  have same : places ⟨s, records⟩ filter = places ⟨s, records'⟩ filter := by
    by_cases valid : s.faults filter = []
    · obtain ⟨d, compiled⟩ := Filter.exists_document_of_valid valid
      rw [places_eq valid compiled, places_eq valid compiled]
      refine congrArg (Except.mapError RepositoryError.query) (filterChecked_places_eq ?_)
      refine (forall₂_zipIdx alike 0).imp fun e e' => ?_
      rintro ⟨place, alike⟩
      exact ⟨place, alike.matches?_eq valid compiled⟩
    · have rejects (records : List Value) := rejects_of_invalid (r := ⟨s, records⟩) valid
      rw [places, places, (rejects records).find, (rejects records').find]
  exact ⟨same, by rw [count_eq, count_eq, same]⟩

/-- Neither a field that is not filterable nor one that is not declared makes a difference, and a
missing field is as good as one that is null. -/
theorem outcome_eq_of_other_secrets :
    let s : Schema := ⟨none, [{ name := "age", type := .number },
      { name := "secret", type := .string, filterable := false }]⟩
    let records : List Value := [.object [("age", .ofNat 34), ("secret", .string "red")],
      .object [("age", .null), ("note", .string "new")]]
    let records' : List Value := [.object [("age", .ofNat 34), ("secret", .string "blue")], .object []]
    let filter : Filter := .any [.condition ⟨"age", .lt, some (.ofNat 40)⟩,
      .condition ⟨"age", .isNull, none⟩]
    let prying : Filter := .all [filter, .condition ⟨"secret", .eq, some (.string "red")⟩]
    List.Forall₂ s.LookAlike records records' ∧
      (places ⟨s, records⟩ (some filter) = .ok [0, 1] ∧
        places ⟨s, records'⟩ (some filter) = .ok [0, 1]) ∧
      (count ⟨s, records⟩ (some prying) = .error (.invalidFilter (s.faults (some prying))) ∧
        count ⟨s, records'⟩ (some prying) = .error (.invalidFilter (s.faults (some prying)))) := by
  intro s records records' filter prying
  have shown (name : String) (h : s.Shows name) : name = "age" := by
    obtain ⟨f, hf, filterable⟩ := h
    have mem := Schema.mem_fields_of_field? hf
    simp only [s, List.mem_cons, List.not_mem_nil, or_false] at mem
    rcases mem with rfl | rfl
    · exact (Schema.name_of_field? hf).symm
    · cases filterable
  have alike : List.Forall₂ s.LookAlike records records' := by
    refine .cons (fun name h => ?_) (.cons (fun name h => ?_) .nil)
    · rw [shown name h]; rfl
    · rw [shown name h]; rfl
  have found : places ⟨s, records⟩ (some filter) = .ok [0, 1] := by
    have answer : (places ⟨s, records⟩ (some filter)).toOption = some [0, 1] := by
      decide +kernel
    cases h : places ⟨s, records⟩ (some filter) with
    | error e => rw [h] at answer; cases answer
    | ok found => rw [h] at answer; exact congrArg Except.ok (Option.some.inj answer)
  have rejected : count ⟨s, records⟩ (some prying) =
      .error (.invalidFilter (s.faults (some prying))) := by rfl
  obtain ⟨same, -⟩ := outcome_eq_of_lookAlike alike (some filter)
  obtain ⟨-, same'⟩ := outcome_eq_of_lookAlike alike (some prying)
  exact ⟨alike, ⟨found, same.symm.trans found⟩, rejected, same'.symm.trans rejected⟩

end Repository

end SchemaFilter
