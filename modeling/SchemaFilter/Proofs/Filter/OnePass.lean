import SchemaFilter.Filter.Conditions
import SchemaFilter.Proofs.Filter.Findings

/-!
# Validation in one pass

`Schema.validateValue` inspects conditions while it reads a filter, and `Schema.faults` inspects
them once the filter has been read. Both are compared through the findings of the value: the faults of
reading are those of its findings, whatever the inspection is, and as long as no finding is
malformed the conditions of the filter that is read are those found, with the same paths.

A malformed node has no position in the filter that is read, so the positions of its later siblings
are only those of the value. This is why a report on a malformed value is described by places in it.
-/

namespace SchemaFilter

namespace Filter

/-! ## Inspecting findings -/

namespace Finding

/-- Without an inspection only structural faults are left. -/
theorem flatMap_faults_of_no_inspection (findings : List Finding) :
    findings.flatMap (faults fun _ _ => []) = findings.filterMap fault? := by
  induction findings with
  | nil => rfl
  | cons f rest ih =>
    rw [List.flatMap_cons, ih]
    cases f <;> rfl

/-- Without structural faults only the inspected conditions have faults. -/
theorem flatMap_faults_of_sound (inspect : Inspection) {findings : List Finding}
    (sound : findings.filterMap fault? = []) :
    findings.flatMap (faults inspect) =
      (findings.filterMap condition?).flatMap fun (path, c) => inspect c path := by
  induction findings with
  | nil => rfl
  | cons f rest ih =>
    cases f with
    | malformed place message => simp [fault?] at sound
    | condition place c =>
      have tail := ih (by simpa [fault?] using sound)
      simp [faults, condition?, tail]

/-- Structural faults are reported whatever the inspection is. -/
theorem filterMap_fault?_eq_nil (inspect : Inspection) {findings : List Finding}
    (faultless : findings.flatMap (faults inspect) = []) : findings.filterMap fault? = [] := by
  induction findings with
  | nil => rfl
  | cons f rest ih =>
    rw [List.flatMap_cons, List.append_eq_nil_iff] at faultless
    cases f with
    | malformed place message => simp [faults] at faultless
    | condition place c => simpa [fault?] using ih faultless.2

end Finding

/-! ## Cases -/

section Cases

variable (inspect : Inspection) (place : Place) (members : Members)

/-- A condition is read and found, or what keeps it from being read is found. -/
theorem decodeCondition_cases :
    (∃ c, decodeCondition inspect place.path members =
        ⟨inspect c place.path, some (.condition c)⟩ ∧
      conditionFindings place members = [.condition place c]) ∨
    (decodeCondition inspect place.path members =
        ⟨(conditionFindings place members).flatMap (Finding.faults inspect), none⟩ ∧
      (conditionFindings place members).filterMap Finding.fault? ≠ []) := by
  -- one component that cannot be read is enough to drop the condition
  cases hfield : stringMember? members "field" with
  | none =>
    right
    cases hname : stringMember? members "operator" with
    | none =>
      simp [decodeCondition, decodeField, decodeOperator, conditionFindings, fieldFindings,
        operatorFindings, hfield, hname, Finding.faults, Finding.fault?]
    | some name =>
      cases hop : Operator.ofName? name <;>
        simp [decodeCondition, decodeField, decodeOperator, conditionFindings, fieldFindings,
          operatorFindings, hfield, hname, hop, Finding.faults, Finding.fault?]
  | some field =>
    cases hname : stringMember? members "operator" with
    | none =>
      right
      simp [decodeCondition, decodeField, decodeOperator, conditionFindings, fieldFindings,
        operatorFindings, hfield, hname, Finding.faults, Finding.fault?]
    | some name =>
      cases hop : Operator.ofName? name with
      | none =>
        right
        simp [decodeCondition, decodeField, decodeOperator, conditionFindings, fieldFindings,
          operatorFindings, hfield, hname, hop, Finding.faults, Finding.fault?]
      | some op =>
        left
        refine ⟨Condition.of field op (members.get? "value"), ?_, ?_⟩
        · simp [decodeCondition, decodeField, decodeOperator, hfield, hname, hop]
        · simp [conditionFindings, hfield, hname, hop]

theorem decodeNode_cases :
    (decodeNode inspect place.path (.object members) =
        decodeCondition inspect place.path members ∧
      nodeFindings place (.object members) = conditionFindings place members) ∨
    (decodeNode inspect place.path (.object members) =
        ⟨(decodeBranch inspect place.path "and" members).faults ++
            (decodeBranch inspect place.path "or" members).faults,
          some (.group (decodeBranch inspect place.path "and" members).result
            (decodeBranch inspect place.path "or" members).result)⟩ ∧
      nodeFindings place (.object members) =
        branchFindings place "and" members ++ branchFindings place "or" members) ∨
    ∃ message, decodeNode inspect place.path (.object members) =
        ⟨[{ path := Fault.keyPath place.path "kind", message }], none⟩ ∧
      nodeFindings place (.object members) =
        [.malformed (place ++ [.key "kind"]) message] := by
  cases kind : stringMember? members "kind" with
  | none =>
    refine .inr (.inr ⟨"Filter node requires a \"kind\" of \"condition\" or \"group\"", ?_, ?_⟩)
    · simp only [decodeNode, kind]
    · simp only [nodeFindings, kind]
  | some name =>
    by_cases isCondition : name = "condition"
    · subst isCondition
      exact .inl ⟨by simp only [decodeNode, kind], by simp only [nodeFindings, kind]⟩
    · by_cases isGroup : name = "group"
      · subst isGroup
        exact .inr (.inl ⟨by simp only [decodeNode, kind], by simp only [nodeFindings, kind]⟩)
      · refine .inr (.inr ⟨"Unknown node kind \"" ++ name ++
          "\" (expected \"condition\" or \"group\")", ?_, ?_⟩)
        · simp only [decodeNode, kind]
        · simp only [nodeFindings, kind]

end Cases

/-! ## Faults -/

mutual

/-- The faults of reading a node are those of its findings. -/
theorem decodeNode_faults (inspect : Inspection) (place : Place) :
    (v : Value) → (decodeNode inspect place.path v).faults =
      (nodeFindings place v).flatMap (Finding.faults inspect)
  | .object members => by
    rcases decodeNode_cases inspect place members with
      ⟨read, found⟩ | ⟨read, found⟩ | ⟨message, read, found⟩
    · rw [read, found]
      rcases decodeCondition_cases inspect place members with ⟨c, inspected, one⟩ | ⟨malformed, -⟩
      · simp [inspected, one, Finding.faults]
      · rw [malformed]
    · rw [read, found, List.flatMap_append, ← decodeBranch_faults inspect place "and" members,
        ← decodeBranch_faults inspect place "or" members]
    · simp [read, found, Finding.faults]
  | .null | .bool _ | .number _ | .string _ | .array _ => by
    simp [decodeNode, nodeFindings, Finding.faults]

theorem decodeBranch_faults (inspect : Inspection) (place : Place) (key : String) :
    (members : List (String × Value)) → (decodeBranch inspect place.path key members).faults =
      (branchFindings place key members).flatMap (Finding.faults inspect)
  | [] => by simp [decodeBranch, branchFindings]
  | (k, .array items) :: rest => by
    unfold decodeBranch branchFindings
    split
    · have inside := decodeItems_faults inspect (place ++ [.key key]) 0 items
      rwa [Place.path_append_key] at inside
    · exact decodeBranch_faults inspect place key rest
  | (k, .null) :: rest => by
    unfold decodeBranch branchFindings
    split
    · rfl
    · exact decodeBranch_faults inspect place key rest
  | (k, .bool _) :: rest | (k, .number _) :: rest | (k, .string _) :: rest
  | (k, .object _) :: rest => by
    unfold decodeBranch branchFindings
    split
    · simp [Finding.faults]
    · exact decodeBranch_faults inspect place key rest

theorem decodeItems_faults (inspect : Inspection) (place : Place) (index : Nat) :
    (items : List Value) → (decodeItems inspect place.path index items).faults =
      (itemFindings place index items).flatMap (Finding.faults inspect)
  | [] => by simp [decodeItems, itemFindings]
  | v :: vs => by
    have head := decodeNode_faults inspect (place ++ [.index index]) v
    rw [Place.path_append_index] at head
    have tail := decodeItems_faults inspect place (index + 1) vs
    simp only [decodeItems, itemFindings, List.flatMap_append, head, tail]

end

/-! ## Results -/

mutual

/-- What is read does not depend on the inspection. -/
theorem decodeNode_result (inspect other : Inspection) (path : String) :
    (v : Value) → (decodeNode inspect path v).result = (decodeNode other path v).result
  | .object members => by
    unfold decodeNode
    split
    · unfold decodeCondition
      simp only
      split <;> rfl
    · simp only [decodeBranch_result inspect other path "and" members,
        decodeBranch_result inspect other path "or" members]
    · rfl
    · rfl
  | .null | .bool _ | .number _ | .string _ | .array _ => by simp [decodeNode]

theorem decodeBranch_result (inspect other : Inspection) (path key : String) :
    (members : List (String × Value)) → (decodeBranch inspect path key members).result =
      (decodeBranch other path key members).result
  | [] => by simp [decodeBranch]
  | (k, .array items) :: rest => by
    unfold decodeBranch
    split
    · simp [decodeItems_result inspect other (Fault.keyPath path key) 0 items]
    · exact decodeBranch_result inspect other path key rest
  | (k, .null) :: rest | (k, .bool _) :: rest | (k, .number _) :: rest | (k, .string _) :: rest
  | (k, .object _) :: rest => by
    unfold decodeBranch
    split
    · rfl
    · exact decodeBranch_result inspect other path key rest

theorem decodeItems_result (inspect other : Inspection) (path : String) (index : Nat) :
    (items : List Value) → (decodeItems inspect path index items).result =
      (decodeItems other path index items).result
  | [] => by simp [decodeItems]
  | v :: vs => by
    simp only [decodeItems]
    rw [decodeNode_result inspect other (Fault.indexPath path index) v,
      decodeItems_result inspect other path (index + 1) vs]

end

mutual

/-- A node without structural faults is read, and its conditions are those found. -/
theorem decodeNode_of_sound (inspect : Inspection) (place : Place) :
    (v : Value) → (nodeFindings place v).filterMap Finding.fault? = [] →
      ∃ n, (decodeNode inspect place.path v).result = some n ∧
        n.conditionsAt place.path = (nodeFindings place v).filterMap Finding.condition?
  | .object members => by
    rcases decodeNode_cases inspect place members with
      ⟨read, found⟩ | ⟨read, found⟩ | ⟨message, read, found⟩
    · rw [read, found]
      intro sound
      rcases decodeCondition_cases inspect place members with ⟨c, inspected, one⟩ | ⟨-, malformed⟩
      · exact ⟨.condition c, by rw [inspected], by simp [one, conditionsAt, Finding.condition?]⟩
      · exact absurd sound malformed
    · rw [read, found, List.filterMap_append, List.filterMap_append, List.append_eq_nil_iff]
      rintro ⟨conjuncts, disjuncts⟩
      refine ⟨_, rfl, ?_⟩
      rw [conditionsAt, decodeBranch_of_sound inspect place "and" members conjuncts,
        decodeBranch_of_sound inspect place "or" members disjuncts]
    · simp [found, Finding.fault?]
  | .null | .bool _ | .number _ | .string _ | .array _ => by
    simp [nodeFindings, Finding.fault?]

theorem decodeBranch_of_sound (inspect : Inspection) (place : Place) (key : String) :
    (members : List (String × Value)) →
      (branchFindings place key members).filterMap Finding.fault? = [] →
        branchConditions (Fault.keyPath place.path key)
            (decodeBranch inspect place.path key members).result =
          (branchFindings place key members).filterMap Finding.condition?
  | [] => by simp [decodeBranch, branchFindings, branchConditions]
  | (k, .array items) :: rest => by
    unfold decodeBranch branchFindings
    split
    · have inside := decodeItems_of_sound inspect (place ++ [.key key]) 0 items
      rwa [Place.path_append_key] at inside
    · exact decodeBranch_of_sound inspect place key rest
  | (k, .null) :: rest => by
    unfold decodeBranch branchFindings
    split
    · intro _
      rfl
    · exact decodeBranch_of_sound inspect place key rest
  | (k, .bool _) :: rest | (k, .number _) :: rest | (k, .string _) :: rest
  | (k, .object _) :: rest => by
    unfold decodeBranch branchFindings
    split
    · simp [Finding.fault?]
    · exact decodeBranch_of_sound inspect place key rest

theorem decodeItems_of_sound (inspect : Inspection) (place : Place) (index : Nat) :
    (items : List Value) → (itemFindings place index items).filterMap Finding.fault? = [] →
      listConditions place.path index (decodeItems inspect place.path index items).result =
        (itemFindings place index items).filterMap Finding.condition?
  | [] => by simp [decodeItems, itemFindings, listConditions]
  | v :: vs => by
    rw [itemFindings, List.filterMap_append, List.filterMap_append, List.append_eq_nil_iff]
    rintro ⟨head, tail⟩
    obtain ⟨n, read, found⟩ := decodeNode_of_sound inspect (place ++ [.index index]) v head
    rw [Place.path_append_index] at read found
    have others := decodeItems_of_sound inspect place (index + 1) vs tail
    simp only [decodeItems, read, Option.toList, List.singleton_append, listConditions]
    rw [found, others]

end

/-! ## Agreement -/

def findings (v : Value) : List Finding :=
  nodeFindings [] v

/-- A malformed node does not shift the places of its siblings. -/
example :
    (findings (.object [("and", .array [.null, .object [("field", .string "age"),
      ("kind", .string "condition"), ("operator", .string "is_null")]]),
      ("kind", .string "group")])).map (·.place.path) = ["<root>.and[0]", "<root>.and[1]"] := by
  decide

theorem condition_mem_findings_iff {v : Value} {place : Place} {c : Condition} :
    .condition place c ∈ findings v ↔ ConditionAt v place c := by
  rw [findings, condition_mem_nodeFindings_iff]
  simp

/-- Reading a value fails exactly if its findings have faults, and then with these. -/
theorem decodeInspected_eq (inspect : Inspection) {v : Value} (present : v.isNull = false) :
    decodeInspected inspect v =
      if (findings v).flatMap (Finding.faults inspect) = [] then
        .ok (decodeNode inspect Fault.rootPath v).result
      else .error ((findings v).flatMap (Finding.faults inspect)) := by
  have faults := decodeNode_faults inspect [] v
  rw [Place.path_nil] at faults
  simp [decodeInspected, present, faults, findings]

/-- What a rejected value is rejected with are the faults of its findings. -/
theorem faults_of_rejected {inspect : Inspection} {v : Value} {faults : List Fault}
    (rejected : decodeInspected inspect v = .error faults) :
    faults = (findings v).flatMap (Finding.faults inspect) := by
  cases present : v.isNull with
  | true => simp [decodeInspected, present] at rejected
  | false =>
    rw [decodeInspected_eq inspect present] at rejected
    split at rejected
    · cases rejected
    · cases rejected
      rfl

end Filter

namespace Schema

open SchemaFilter.Filter

/-- A value without structural faults is read, and validating it is validating what is read. -/
theorem validateValue_of_sound (s : Schema) {v : Value} (present : v.isNull = false)
    (sound : (findings v).filterMap Finding.fault? = []) :
    ∃ filter, Filter.decode v = .ok filter ∧
      s.validateValue v = if s.faults filter = [] then .ok filter else .error (s.faults filter) := by
  obtain ⟨n, read, conditions⟩ := decodeNode_of_sound (fun _ _ => []) [] v sound
  rw [Place.path_nil] at read conditions
  have reported : (findings v).flatMap (Finding.faults s.conditionFaults) = s.faults (some n) := by
    rw [Finding.flatMap_faults_of_sound _ sound, faults_some, Filter.conditions, conditions]
    rfl
  refine ⟨some n, ?_, ?_⟩
  · rw [decode, decodeInspected_eq _ present, Finding.flatMap_faults_of_no_inspection,
      if_pos sound, read]
  · rw [validateValue, decodeInspected_eq _ present, reported,
      decodeNode_result s.conditionFaults fun _ _ => [], read]

theorem validateValue_of_unsound (s : Schema) {v : Value} (present : v.isNull = false)
    (unsound : (findings v).filterMap Finding.fault? ≠ []) :
    Filter.decode v = .error ((findings v).filterMap Finding.fault?) ∧
      s.validateValue v = .error ((findings v).flatMap (Finding.faults s.conditionFaults)) := by
  have reported : (findings v).flatMap (Finding.faults s.conditionFaults) ≠ [] :=
    mt (Finding.filterMap_fault?_eq_nil _) unsound
  constructor
  · rw [decode, decodeInspected_eq _ present, Finding.flatMap_faults_of_no_inspection,
      if_neg unsound]
  · rw [validateValue, decodeInspected_eq _ present, if_neg reported]

theorem decode_of_validateValue {s : Schema} {v : Value} {filter : Option Filter}
    (h : s.validateValue v = .ok filter) : Filter.decode v = .ok filter ∧ s.faults filter = [] := by
  cases present : v.isNull with
  | true =>
    simp only [validateValue, decodeInspected, present, if_true, Except.ok.injEq] at h
    subst h
    exact ⟨by simp [decode, decodeInspected, present], rfl⟩
  | false =>
    by_cases sound : (findings v).filterMap Finding.fault? = []
    · obtain ⟨read, hread, validated⟩ := s.validateValue_of_sound present sound
      rw [h] at validated
      split at validated
      · next valid =>
        cases validated
        exact ⟨hread, valid⟩
      · cases validated
    · obtain ⟨-, validated⟩ := s.validateValue_of_unsound present sound
      cases h.symm.trans validated

/-- Validating a value in one pass agrees with reading it and validating what has been read. If the
value cannot be read, the report goes through its findings in tree order: without the faults of the
schema it is the report of reading, and the faults of the schema are those of the conditions that
stand in the value, at their places in the value. -/
theorem validateValue_agrees (s : Schema) (v : Value) :
    match Filter.decode v with
    | .ok filter =>
      s.validateValue v = if s.faults filter = [] then .ok filter else .error (s.faults filter)
    | .error faults =>
      s.validateValue v = .error ((findings v).flatMap (Finding.faults s.conditionFaults)) ∧
        (findings v).filterMap Finding.fault? = faults ∧
        (∀ place c, .condition place c ∈ findings v ↔ ConditionAt v place c) ∧
        (findings v).Pairwise fun a b => a.place.Before b.place := by
  cases present : v.isNull with
  | true => simp [decode, validateValue, decodeInspected, present, faults]
  | false =>
    -- the value can be read exactly if none of its findings is malformed
    by_cases sound : (findings v).filterMap Finding.fault? = []
    · obtain ⟨filter, read, validated⟩ := s.validateValue_of_sound present sound
      rw [read]
      exact validated
    · obtain ⟨unread, validated⟩ := s.validateValue_of_unsound present sound
      rw [unread]
      exact ⟨validated, rfl, fun place c => condition_mem_findings_iff,
        (inOrderBelow_nodeFindings [] v).1⟩

end Schema

end SchemaFilter
