import SchemaFilter.Proofs.Filter.OnePass

/-!
# The grammar of filters

`IsNode` says which values write a filter, and `MalformedAt` at which places another value departs
from that and how. Neither mentions the reader. A value is read exactly if it is null or a node, and
otherwise the faults are those of its malformed places, one for each.

A place is malformed if it is reached: what stands in a node of no known kind, or under a key that
is no list, is not looked at, while a malformed item of a list does not keep the items beside it
from being looked at.
-/

namespace SchemaFilter

theorem Operator.ofName?_eq_none_iff {name : String} :
    ofName? name = none ↔ ∀ op : Operator, op.name ≠ name := by
  rw [ofName?, List.find?_eq_none]
  simp [mem_all]

namespace Filter

/-! ## Nodes and malformed places -/

/-- Whether a value writes a filter. Other keys than the ones named may be present. -/
inductive IsNode : Value → Prop where
  /-- a condition, with a field and the name of an operator -/
  | condition {members : Members} {field : String} {op : Operator}
      (kind : stringMember? members "kind" = some "condition")
      (hfield : stringMember? members "field" = some field)
      (hop : stringMember? members "operator" = some op.name) : IsNode (.object members)
  /-- a group, each branch of which is absent, null or a list of nodes -/
  | group {members : Members} (kind : stringMember? members "kind" = some "group")
      (branch : ∀ key, key = "and" ∨ key = "or" → ∀ v, members.get? key = some v →
        v = .null ∨ ∃ items, v = .array items)
      (inside : ∀ key, key = "and" ∨ key = "or" → ∀ items, members.get? key = some (.array items) →
        ∀ v ∈ items, IsNode v) : IsNode (.object members)

/-- Where a value is malformed, and what is said of it. -/
inductive MalformedAt : Value → Place → String → Prop where
  | noObject {v : Value} (other : v.members? = none) :
      MalformedAt v [] "Filter node must be an object"
  | noKind {members : Members} (missing : stringMember? members "kind" = none) :
      MalformedAt (.object members) [.key "kind"]
        "Filter node requires a \"kind\" of \"condition\" or \"group\""
  | unknownKind {members : Members} {name : String}
      (kind : stringMember? members "kind" = some name) (noCondition : name ≠ "condition")
      (noGroup : name ≠ "group") :
      MalformedAt (.object members) [.key "kind"]
        ("Unknown node kind \"" ++ name ++ "\" (expected \"condition\" or \"group\")")
  | noField {members : Members} (kind : stringMember? members "kind" = some "condition")
      (missing : stringMember? members "field" = none) :
      MalformedAt (.object members) [.key "field"] "\"field\" must be a string"
  | noOperator {members : Members} (kind : stringMember? members "kind" = some "condition")
      (missing : stringMember? members "operator" = none) :
      MalformedAt (.object members) [.key "operator"] "\"operator\" must be a string"
  | unknownOperator {members : Members} {name : String}
      (kind : stringMember? members "kind" = some "condition")
      (hname : stringMember? members "operator" = some name)
      (unknown : ∀ op : Operator, op.name ≠ name) :
      MalformedAt (.object members) [.key "operator"] (unknownOperatorMessage name)
  | noList {members : Members} {key : String} {v : Value}
      (kind : stringMember? members "kind" = some "group") (branch : key = "and" ∨ key = "or")
      (hv : members.get? key = some v) (noNull : v.isNull = false) (other : v.items? = none) :
      MalformedAt (.object members) [.key key] ("\"" ++ key ++ "\" must be an array")
  | item {members : Members} {key : String} {items : List Value} {i : Nat} {v : Value}
      {place : Place} {message : String} (kind : stringMember? members "kind" = some "group")
      (branch : key = "and" ∨ key = "or") (hitems : members.get? key = some (.array items))
      (hv : items[i]? = some v) (inside : MalformedAt v place message) :
      MalformedAt (.object members) (.key key :: .index i :: place) message

section Inversion

variable {members : Members} {place : Place} {message : String}

theorem malformedAt_noKind_iff (missing : stringMember? members "kind" = none) :
    MalformedAt (.object members) place message ↔
      place = [.key "kind"] ∧
        message = "Filter node requires a \"kind\" of \"condition\" or \"group\"" := by
  constructor
  · intro h
    cases h with
    | noKind => exact ⟨rfl, rfl⟩
    | noObject other => cases other
    | _ => simp_all
  · rintro ⟨rfl, rfl⟩
    exact .noKind missing

theorem malformedAt_unknownKind_iff {name : String}
    (kind : stringMember? members "kind" = some name) (noCondition : name ≠ "condition")
    (noGroup : name ≠ "group") :
    MalformedAt (.object members) place message ↔
      place = [.key "kind"] ∧ message =
        "Unknown node kind \"" ++ name ++ "\" (expected \"condition\" or \"group\")" := by
  constructor
  · intro h
    cases h with
    | unknownKind kind' =>
      cases kind.symm.trans kind'
      exact ⟨rfl, rfl⟩
    | noObject other => cases other
    | _ => simp_all
  · rintro ⟨rfl, rfl⟩
    exact .unknownKind kind noCondition noGroup

/-- What can be malformed about a condition: its field and its operator. -/
theorem malformedAt_condition_iff (kind : stringMember? members "kind" = some "condition") :
    MalformedAt (.object members) place message ↔
      (stringMember? members "field" = none ∧ place = [.key "field"] ∧
        message = "\"field\" must be a string") ∨
      (stringMember? members "operator" = none ∧ place = [.key "operator"] ∧
        message = "\"operator\" must be a string") ∨
      ∃ name, stringMember? members "operator" = some name ∧ (∀ op : Operator, op.name ≠ name) ∧
        place = [.key "operator"] ∧ message = unknownOperatorMessage name := by
  constructor
  · intro h
    cases h with
    | noField _ missing => exact .inl ⟨missing, rfl, rfl⟩
    | noOperator _ missing => exact .inr (.inl ⟨missing, rfl, rfl⟩)
    | unknownOperator _ hname unknown => exact .inr (.inr ⟨_, hname, unknown, rfl, rfl⟩)
    | noObject other => cases other
    | _ => simp_all
  · rintro (⟨missing, rfl, rfl⟩ | ⟨missing, rfl, rfl⟩ | ⟨name, hname, unknown, rfl, rfl⟩)
    · exact .noField kind missing
    · exact .noOperator kind missing
    · exact .unknownOperator kind hname unknown

/-- What can be malformed about a group: the nodes in its branches and the branches themselves. -/
theorem malformedAt_group_iff (kind : stringMember? members "kind" = some "group") :
    MalformedAt (.object members) place message ↔
      ∃ key, (key = "and" ∨ key = "or") ∧
        ((∃ items i v p, members.get? key = some (.array items) ∧ items[i]? = some v ∧
          place = .key key :: .index i :: p ∧ MalformedAt v p message) ∨
        ∃ v, members.get? key = some v ∧ v.isNull = false ∧ v.items? = none ∧
          place = [.key key] ∧ message = "\"" ++ key ++ "\" must be an array") := by
  constructor
  · intro h
    cases h with
    | noList _ branch hv noNull other => exact ⟨_, branch, .inr ⟨_, hv, noNull, other, rfl, rfl⟩⟩
    | item _ branch hitems hv inside =>
      exact ⟨_, branch, .inl ⟨_, _, _, _, hitems, hv, rfl, inside⟩⟩
    | noObject other => cases other
    | _ => simp_all
  · rintro ⟨key, branch, ⟨items, i, v, p, hitems, hv, rfl, inside⟩ |
      ⟨v, hv, noNull, other, rfl, rfl⟩⟩
    · exact .item kind branch hitems hv inside
    · exact .noList kind branch hv noNull other

end Inversion

/-! ## Malformed findings -/

section Findings

variable {place q : Place} {members : Members} {message : String}

theorem malformed_mem_fieldFindings_iff :
    .malformed q message ∈ fieldFindings place members ↔
      stringMember? members "field" = none ∧ q = place ++ [.key "field"] ∧
        message = "\"field\" must be a string" := by
  cases h : stringMember? members "field" <;> simp [fieldFindings, h]

theorem malformed_mem_operatorFindings_iff :
    .malformed q message ∈ operatorFindings place members ↔
      (stringMember? members "operator" = none ∧ q = place ++ [.key "operator"] ∧
        message = "\"operator\" must be a string") ∨
      ∃ name, stringMember? members "operator" = some name ∧ (∀ op : Operator, op.name ≠ name) ∧
        q = place ++ [.key "operator"] ∧ message = unknownOperatorMessage name := by
  simp only [← Operator.ofName?_eq_none_iff]
  cases h : stringMember? members "operator" with
  | none => simp [operatorFindings, h]
  | some name => cases hop : Operator.ofName? name <;> simp [operatorFindings, h, hop]

/-- A condition is found, or else all that is malformed about it. -/
theorem malformed_mem_conditionFindings_iff :
    .malformed q message ∈ conditionFindings place members ↔
      .malformed q message ∈ fieldFindings place members ∨
        .malformed q message ∈ operatorFindings place members := by
  unfold conditionFindings
  split
  · next field op hfield hop =>
    obtain ⟨name, hname, named⟩ := Option.bind_eq_some_iff.1 hop
    simp [fieldFindings, operatorFindings, hfield, hname, named]
  · rw [List.mem_append]

theorem malformed_mem_singleton_iff {part : Place} {text : String} :
    .malformed q message ∈ [Finding.malformed (place ++ part) text] ↔
      ∃ p, q = place ++ p ∧ p = part ∧ message = text := by
  rw [List.mem_singleton, Finding.malformed.injEq]
  constructor
  · rintro ⟨rfl, rfl⟩
    exact ⟨part, rfl, rfl, rfl⟩
  · rintro ⟨p, rfl, rfl, rfl⟩
    exact ⟨rfl, rfl⟩

theorem malformed_mem_nodeFindings_of_condition
    (kind : stringMember? members "kind" = some "condition") :
    .malformed q message ∈ nodeFindings place (.object members) ↔
      ∃ p, q = place ++ p ∧ MalformedAt (.object members) p message := by
  rw [nodeFindings_of_condition kind, malformed_mem_conditionFindings_iff,
    malformed_mem_fieldFindings_iff, malformed_mem_operatorFindings_iff]
  simp only [malformedAt_condition_iff kind]
  constructor
  · rintro (⟨missing, rfl, rfl⟩ | ⟨missing, rfl, rfl⟩ | ⟨name, hname, unknown, rfl, rfl⟩)
    · exact ⟨_, rfl, .inl ⟨missing, rfl, rfl⟩⟩
    · exact ⟨_, rfl, .inr (.inl ⟨missing, rfl, rfl⟩)⟩
    · exact ⟨_, rfl, .inr (.inr ⟨name, hname, unknown, rfl, rfl⟩)⟩
  · rintro ⟨p, rfl, ⟨missing, rfl, rfl⟩ | ⟨missing, rfl, rfl⟩ | ⟨name, hname, unknown, rfl, rfl⟩⟩
    · exact .inl ⟨missing, rfl, rfl⟩
    · exact .inr (.inl ⟨missing, rfl, rfl⟩)
    · exact .inr (.inr ⟨name, hname, unknown, rfl, rfl⟩)

theorem malformed_mem_nodeFindings_of_group
    (kind : stringMember? members "kind" = some "group")
    (inside : ∀ key items, members.get? key = some (.array items) → ∀ v ∈ items,
      ∀ {place q : Place}, (.malformed q message ∈ nodeFindings place v ↔
        ∃ p, q = place ++ p ∧ MalformedAt v p message)) :
    .malformed q message ∈ nodeFindings place (.object members) ↔
      ∃ p, q = place ++ p ∧ MalformedAt (.object members) p message := by
  simp only [mem_nodeFindings_of_group kind, mem_branchFindings_iff, malformedAt_group_iff kind]
  constructor
  · rintro ⟨key, branch, ⟨items, i, v, hitems, hv, h⟩ | ⟨v, hv, noNull, other, same⟩⟩
    · obtain ⟨p, rfl, below⟩ := (inside key items hitems v (List.mem_of_getElem? hv)).1 h
      exact ⟨.key key :: .index i :: p, by simp, key, branch,
        .inl ⟨items, i, v, p, hitems, hv, rfl, below⟩⟩
    · obtain ⟨rfl, rfl⟩ := Finding.malformed.inj same
      exact ⟨_, rfl, key, branch, .inr ⟨v, hv, noNull, other, rfl, rfl⟩⟩
  · rintro ⟨p, rfl, key, branch, ⟨items, i, v, p, hitems, hv, rfl, below⟩ |
      ⟨v, hv, noNull, other, rfl, rfl⟩⟩
    · refine ⟨key, branch, .inl ⟨items, i, v, hitems, hv, ?_⟩⟩
      exact (inside key items hitems v (List.mem_of_getElem? hv)).2 ⟨p, by simp, below⟩
    · exact ⟨key, branch, .inr ⟨v, hv, noNull, other, rfl⟩⟩

/-- The malformed findings of a value are its malformed places. -/
theorem malformed_mem_nodeFindings_iff {v : Value} :
    .malformed q message ∈ nodeFindings place v ↔
      ∃ p, q = place ++ p ∧ MalformedAt v p message := by
  induction v using Value.itemInduction generalizing place q with
  | other v other =>
    rw [nodeFindings_of_members?_eq_none other, List.mem_singleton, Finding.malformed.injEq]
    constructor
    · rintro ⟨rfl, rfl⟩
      exact ⟨[], by simp, .noObject other⟩
    · rintro ⟨p, rfl, h⟩
      cases h with
      | noObject => simp
      | _ => cases other
  | object members inside =>
    cases kind : stringMember? members "kind" with
    | none => simp only [nodeFindings, kind, malformed_mem_singleton_iff, malformedAt_noKind_iff]
    | some name =>
      by_cases isCondition : name = "condition"
      · subst isCondition
        exact malformed_mem_nodeFindings_of_condition kind
      · by_cases isGroup : name = "group"
        · subst isGroup
          exact malformed_mem_nodeFindings_of_group kind inside
        · simp only [nodeFindings, kind, malformed_mem_singleton_iff,
            malformedAt_unknownKind_iff kind isCondition isGroup]

end Findings

/-! ## Nodes -/

/-- Nothing is malformed about a node. -/
theorem IsNode.not_malformedAt {v : Value} (node : IsNode v) (place : Place) (message : String) :
    ¬ MalformedAt v place message := by
  induction node generalizing place with
  | @condition members field op kind hfield hop =>
    rw [malformedAt_condition_iff kind]
    rintro (⟨missing, -⟩ | ⟨missing, -⟩ | ⟨name, hname, unknown, -⟩)
    · simp [missing] at hfield
    · simp [missing] at hop
    · exact unknown op (by simpa [hop] using hname)
  | @group members kind branch inside ih =>
    rw [malformedAt_group_iff kind]
    rintro ⟨key, hkey, ⟨items, i, v, p, hitems, hv, -, below⟩ | ⟨v, hv, noNull, other, -⟩⟩
    · exact ih key hkey items hitems v (List.mem_of_getElem? hv) p below
    · rcases branch key hkey v hv with rfl | ⟨items, rfl⟩
      · cases noNull
      · cases other

/-- A condition about which nothing is malformed is a node. -/
theorem isNode_of_condition {members : Members}
    (kind : stringMember? members "kind" = some "condition")
    (sound : ∀ place message, ¬ MalformedAt (.object members) place message) :
    IsNode (.object members) := by
  cases hfield : stringMember? members "field" with
  | none => exact absurd (.noField kind hfield) (sound _ _)
  | some field =>
    cases hname : stringMember? members "operator" with
    | none => exact absurd (.noOperator kind hname) (sound _ _)
    | some name =>
      cases hop : Operator.ofName? name with
      | none =>
        have unknown := Operator.ofName?_eq_none_iff.1 hop
        exact absurd (.unknownOperator kind hname unknown) (sound _ _)
      | some op =>
        rw [← Operator.name_of_ofName? hop] at hname
        exact .condition kind hfield hname

/-- A group about which nothing is malformed is a node, if this is so for the items of its lists. -/
theorem isNode_of_group {members : Members}
    (kind : stringMember? members "kind" = some "group")
    (inside : ∀ key items, members.get? key = some (.array items) → ∀ v ∈ items,
      (∀ place message, ¬ MalformedAt v place message) → IsNode v)
    (sound : ∀ place message, ¬ MalformedAt (.object members) place message) :
    IsNode (.object members) := by
  refine .group kind (fun key branch v hv => ?_) fun key branch items hitems v hv => ?_
  · cases v with
    | null => exact .inl rfl
    | array items => exact .inr ⟨items, rfl⟩
    | _ => exact absurd (.noList kind branch hv rfl rfl) (sound _ _)
  · obtain ⟨i, hi⟩ := List.getElem?_of_mem hv
    exact inside key items hitems v hv fun place message below =>
      sound _ _ (.item kind branch hitems hi below)

/-- The nodes are the values that are malformed nowhere. -/
theorem isNode_iff {v : Value} : IsNode v ↔ ∀ place message, ¬ MalformedAt v place message := by
  refine ⟨fun node => node.not_malformedAt, fun sound => ?_⟩
  induction v using Value.itemInduction with
  | other v other => exact absurd (.noObject other) (sound _ _)
  | object members inside =>
    cases kind : stringMember? members "kind" with
    | none => exact absurd (.noKind kind) (sound _ _)
    | some name =>
      by_cases isCondition : name = "condition"
      · subst isCondition
        exact isNode_of_condition kind sound
      · by_cases isGroup : name = "group"
        · subst isGroup
          exact isNode_of_group kind inside sound
        · exact absurd (.unknownKind kind isCondition isGroup) (sound _ _)

/-! ## Reading -/

theorem Place.not_before_self (place : Place) : ¬ place.Before place := by
  refine List.lex_irrefl (fun step before => ?_) place
  cases step with
  | key name => exact Nat.lt_irrefl _ before
  | index i => exact Nat.lt_irrefl _ before

def Finding.malformed? : Finding → Option (Place × String)
  | malformed place message => some (place, message)
  | condition _ _ => none

def malformedPlaces (v : Value) : List (Place × String) :=
  (findings v).filterMap Finding.malformed?

theorem mem_malformedPlaces_iff {v : Value} {place : Place} {message : String} :
    (place, message) ∈ malformedPlaces v ↔ MalformedAt v place message := by
  have found : (place, message) ∈ malformedPlaces v ↔ .malformed place message ∈ findings v := by
    rw [malformedPlaces, List.mem_filterMap]
    constructor
    · rintro ⟨f, hf, same⟩
      cases f with
      | malformed _ _ => cases same; exact hf
      | condition _ _ => cases same
    · intro h
      exact ⟨_, h, rfl⟩
  rw [found, findings, malformed_mem_nodeFindings_iff]
  simp

/-- No place is malformed twice. -/
theorem nodup_malformedPlaces (v : Value) : ((malformedPlaces v).map Prod.fst).Nodup := by
  rw [List.Nodup, malformedPlaces, List.pairwise_map, List.pairwise_filterMap]
  refine (inOrderBelow_nodeFindings [] v).1.imp fun {a b} before p hp q hq same => ?_
  cases a <;> cases hp
  cases b <;> cases hq
  cases same
  exact Place.not_before_self _ before

theorem isNode_iff_malformedPlaces {v : Value} : IsNode v ↔ malformedPlaces v = [] := by
  rw [isNode_iff, List.eq_nil_iff_forall_not_mem]
  constructor
  · rintro sound ⟨place, message⟩ h
    exact sound place message (mem_malformedPlaces_iff.1 h)
  · intro none place message h
    exact none (place, message) (mem_malformedPlaces_iff.2 h)

/-- A value that is not null is read unless some place in it is malformed, and then every malformed
place has its fault. -/
theorem decode_eq {v : Value} (present : v.isNull = false) :
    decode v =
      if malformedPlaces v = [] then .ok (decodeNode (fun _ _ => []) Fault.rootPath v).result
      else .error ((malformedPlaces v).map fun (place, message) =>
        { path := place.path, message }) := by
  have faults : (findings v).filterMap Finding.fault? =
      (malformedPlaces v).map fun (place, message) => { path := place.path, message } := by
    rw [malformedPlaces, List.map_filterMap]
    congr
    funext f
    cases f <;> rfl
  simp only [decode, decodeInspected_eq _ present, Finding.flatMap_faults_of_no_inspection, faults,
    List.map_eq_nil_iff]

/-- Exactly null and the nodes are read. Any other value has one fault for each of its malformed
places, with the path of that place, and no other fault. -/
theorem decode_accepts_grammar (v : Value) :
    ((∃ filter, decode v = .ok filter) ↔ v = .null ∨ IsNode v) ∧
      ∀ faults, decode v = .error faults → ∃ positions : List (Place × String),
        faults = positions.map (fun (place, message) => { path := place.path, message }) ∧
        (positions.map Prod.fst).Nodup ∧
        ∀ place message, (place, message) ∈ positions ↔ MalformedAt v place message := by
  cases present : v.isNull with
  | true =>
    rw [Value.eq_null_of_isNull present]
    refine ⟨iff_of_true ⟨none, rfl⟩ (.inl rfl), fun faults failed => ?_⟩
    cases failed
  | false =>
    have noNull : v ≠ .null := by
      rintro rfl
      cases present
    rw [decode_eq present, isNode_iff_malformedPlaces]
    by_cases sound : malformedPlaces v = []
    · rw [if_pos sound]
      refine ⟨iff_of_true ⟨_, rfl⟩ (.inr sound), fun faults failed => ?_⟩
      cases failed
    · rw [if_neg sound]
      refine ⟨iff_of_false (by simp) (by simp [noNull, sound]), fun faults failed => ?_⟩
      cases failed
      exact ⟨malformedPlaces v, rfl, nodup_malformedPlaces v,
        fun place message => mem_malformedPlaces_iff⟩

end Filter

end SchemaFilter
