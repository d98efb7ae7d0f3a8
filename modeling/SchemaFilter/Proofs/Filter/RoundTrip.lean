import Mathlib.Data.List.Forall2
import SchemaFilter.Filter.Typed
import SchemaFilter.Proofs.Filter.Grammar
import SchemaFilter.Proofs.Filter.Leaves
import SchemaFilter.Proofs.Value.Canonical

/-!
# Round trips of filters

A filter is written in one way and read in two, by `decode` with a report of its faults and by
`ofValue?` as plain data. What is written reads back as the same filter both ways. A value that
`decode` reads is read as the same filter by `ofValue?`, and written again it is rid of nulls and of
keys that no reader asks for.

Readers and writer meet in `ReadsAs`, which follows the shape of nodes: a condition by its members,
a branch by its list. Plain data may not have a component twice, while `decode` takes the first of
two members with one key, so this is about values whose objects have no key twice.
-/

namespace SchemaFilter

/-! ## Components -/

/-- A component of sorted members is what its key leads to. -/
theorem View.component_eq_of_sorted {members : Members} (sorted : members.Sorted) (key : String) :
    View.component members [key] = some (members.get? key) := by
  have one := sorted.filter_eq key
  have shown : members.filter (fun e => [key].contains e.1) =
      members.filter (fun e => e.1 = key) := by
    simp
  unfold View.component
  cases h : members.get? key with
  | none =>
    rw [h] at one
    simp only [shown, one, Option.map_none, Option.toList_none]
  | some v =>
    rw [h] at one
    simp only [shown, one, Option.map_some, Option.toList_some]

/-! ## Written conditions -/

namespace Condition

/-- Making a condition out of the parts of one that was made changes nothing. -/
theorem of_operand_of (field : String) (op : Operator) (operand : Option Value) :
    Condition.of field op (Condition.of field op operand).operand =
      Condition.of field op operand := by
  simp [Condition.of]

theorem sorted_members (c : Condition) :
    (c.members [("kind", .string "condition")]).Sorted := by
  obtain ⟨field, op, operand⟩ := c
  cases operand with
  | none =>
    have keys : _ = ["field", "kind", "operator"] := rfl
    exact Members.sorted_of_keys keys (by decide)
  | some v =>
    have keys : _ = ["field", "kind", "operator", "value"] := rfl
    exact Members.sorted_of_keys keys (by decide)

theorem get?_members_value (c : Condition) :
    (c.members [("kind", .string "condition")]).get? "value" = c.operand := by
  obtain ⟨field, op, operand⟩ := c
  cases operand <;> simp [Condition.members]

end Condition

namespace Filter

/-! ## Reading both ways -/

/-- Whether a value is read as a filter both ways, wherever it stands. -/
def ReadsAs (v : Value) (f : Filter) : Prop :=
  (∀ path, decodeNode (fun _ _ => []) path v = ⟨[], some f⟩) ∧ ∀ nested, node? nested v = some f

/-- Whether what stands under the key of a branch is read as a branch. -/
inductive BranchReadsAs : Option Value → Option (List Filter) → Prop where
  | absent : BranchReadsAs none none
  | null : BranchReadsAs (some .null) none
  | list {items : List Value} {list : List Filter} (h : List.Forall₂ ReadsAs items list) :
      BranchReadsAs (some (.array items)) (some list)

theorem stringMember?_eq_some_iff {members : Members} {key text : String} :
    stringMember? members key = some text ↔ members.get? key = some (.string text) := by
  rw [stringMember?, Option.bind_eq_some_iff]
  constructor
  · rintro ⟨v, hv, same⟩
    cases v with
    | string s =>
      cases same
      exact hv
    | _ => cases same
  · intro h
    exact ⟨_, h, rfl⟩

theorem readsAs_condition {members : Members} {field : String} {op : Operator}
    (sorted : members.Sorted) (kind : stringMember? members "kind" = some "condition")
    (hfield : stringMember? members "field" = some field)
    (hop : stringMember? members "operator" = some op.name) :
    ReadsAs (.object members) (.condition (Condition.of field op (members.get? "value"))) := by
  refine ⟨fun path => ?_, fun nested => ?_⟩
  · simp only [decodeNode, kind]
    simp [decodeCondition, decodeField, decodeOperator, hfield, hop]
  · have components : Value.nestedView.components Condition.keys (.object members) =
        some [members.get? "field", members.get? "operator", members.get? "value"] := by
      simp [View.components, Condition.keys, Value.nestedView, Value.view, Value.members?,
        View.component_eq_of_sorted sorted]
    have operand : Value.nestedView.optional some (members.get? "value") =
        some ((members.get? "value").filter (!·.isNull)) := by
      cases members.get? "value" with
      | none => rfl
      | some v => cases h : v.isNull <;>
          simp [View.optional, Value.nestedView, Value.view, Option.filter, h]
    have read : Condition.ofComponents? Value.nestedView
        [some (.string field), some (.string op.name), members.get? "value"] =
          some (Condition.of field op (members.get? "value")) := by
      rw [Condition.ofComponents?, operand]
      simp [View.required, View.operator?, Value.nestedView, Value.view, Value.string?,
        Condition.of]
    rw [stringMember?_eq_some_iff] at kind hfield hop
    have named : (List.lookup "kind" members).bind (kind? nested) = some .condition := by
      rw [show List.lookup "kind" members = _ from kind]
      rfl
    rw [hfield, hop] at components
    simp [node?, named, components, read]

theorem readsAs_items {items : List Value} {list : List Filter}
    (h : List.Forall₂ ReadsAs items list) :
    (∀ path index, decodeItems (fun _ _ => []) path index items = ⟨[], list⟩) ∧
      ∀ nested, nodes? nested items = some list := by
  induction h with
  | nil => exact ⟨fun path index => by simp [decodeItems], fun nested => by simp [nodes?]⟩
  | cons head _ ih =>
    refine ⟨fun path index => ?_, fun nested => ?_⟩
    · simp [decodeItems, head.1, ih.1]
    · simp [nodes?, head.2, ih.2]

theorem readsAs_branch {members : Members} {key : String} {branch : Option (List Filter)}
    (h : BranchReadsAs (members.get? key) branch) :
    (∀ path, decodeBranch (fun _ _ => []) path key members = ⟨[], branch⟩) ∧
      ∀ nested, branch? nested key members = some branch := by
  induction members with
  | nil =>
    cases h
    exact ⟨fun path => by simp [decodeBranch], fun nested => by simp [branch?]⟩
  | cons e rest ih =>
    obtain ⟨k, v⟩ := e
    rw [Members.get?_cons] at h
    by_cases same : key = k
    · subst same
      rw [if_pos rfl] at h
      cases h with
      | null =>
        exact ⟨fun path => by simp [decodeBranch], fun nested => by simp [branch?, children?]⟩
      | list h =>
        obtain ⟨decoded, read⟩ := readsAs_items h
        exact ⟨fun path => by simp [decodeBranch, decoded],
          fun nested => by simp [branch?, children?, read]⟩
    · rw [if_neg same] at h
      obtain ⟨decoded, read⟩ := ih h
      refine ⟨fun path => ?_, fun nested => ?_⟩
      · unfold decodeBranch
        rw [if_neg (Ne.symm same), decoded]
      · rw [branch?, if_neg (Ne.symm same), read]

/-- A group is read by its branches. -/
theorem readsAs_group {members : Members} {conjuncts disjuncts : Option (List Filter)}
    (kind : stringMember? members "kind" = some "group")
    (first : BranchReadsAs (members.get? "and") conjuncts)
    (second : BranchReadsAs (members.get? "or") disjuncts) :
    ReadsAs (.object members) (.group conjuncts disjuncts) := by
  refine ⟨fun path => ?_, fun nested => ?_⟩
  · simp only [decodeNode, kind, (readsAs_branch first).1, (readsAs_branch second).1,
      List.append_nil]
  · rw [stringMember?_eq_some_iff] at kind
    have named : (List.lookup "kind" members).bind (kind? nested) = some .group := by
      rw [show List.lookup "kind" members = _ from kind]
      rfl
    simp [node?, named, (readsAs_branch first).2, (readsAs_branch second).2]

theorem ReadsAs.decode_eq {v : Value} {f : Filter} (h : ReadsAs v f) :
    decode v = .ok (some f) := by
  have read := h.1 Fault.rootPath
  cases present : v.isNull with
  | true =>
    rw [Value.eq_null_of_isNull present] at read
    simp [decodeNode] at read
  | false => simp [decode, decodeInspected, present, read]

/-! ## Written filters -/

/-- Whether all conditions of a filter are made by `Condition.of`, so that no operand is null. -/
def Built (f : Filter) : Prop :=
  ∀ c ∈ f.leaves, ∃ field op operand, c = Condition.of field op operand

theorem built_group_iff {conjuncts disjuncts : Option (List Filter)} :
    (group conjuncts disjuncts).Built ↔
      (∀ f ∈ children conjuncts, f.Built) ∧ ∀ f ∈ children disjuncts, f.Built :=
  forall_leaves_group

theorem toValues_eq (list : List Filter) : toValues list = list.map toValue := by
  induction list with
  | nil => rw [toValues, List.map_nil]
  | cons f rest ih => rw [toValues, ih, List.map_cons]

theorem readsAs_toValue_condition (field : String) (op : Operator) (operand : Option Value) :
    ReadsAs (condition (Condition.of field op operand)).toValue
      (condition (Condition.of field op operand)) := by
  generalize hc : Condition.of field op operand = c
  have kind : stringMember? (c.members [("kind", .string "condition")]) "kind" =
      some "condition" := by
    simp [stringMember?, Condition.members, Value.string?]
  have hfield : stringMember? (c.members [("kind", .string "condition")]) "field" =
      some field := by
    simp [stringMember?, Condition.members, Value.string?, ← hc, Condition.of]
  have hop : stringMember? (c.members [("kind", .string "condition")]) "operator" =
      some op.name := by
    simp [stringMember?, Condition.members, Value.string?, ← hc, Condition.of]
  have read := readsAs_condition c.sorted_members kind hfield hop
  rwa [c.get?_members_value, ← hc, Condition.of_operand_of, hc] at read

/-- A branch that is written is read as the same branch, if this is so for its filters. -/
theorem branchReadsAs_written {branch : Option (List Filter)}
    (h : ∀ f ∈ children branch, ReadsAs f.toValue f) :
    BranchReadsAs (branch.map fun list => .array (toValues list)) branch := by
  cases branch with
  | none => exact .absent
  | some list =>
    refine .list ?_
    rw [toValues_eq, List.forall₂_map_left_iff, List.forall₂_same]
    exact h

/-- A filter that is written is read as the same filter. -/
theorem Built.readsAs_toValue {f : Filter} (built : f.Built) : ReadsAs f.toValue f := by
  induction f with
  | condition c =>
    obtain ⟨field, op, operand, rfl⟩ := built c (by simp)
    exact readsAs_toValue_condition field op operand
  | group conjuncts disjuncts first second =>
    obtain ⟨builtFirst, builtSecond⟩ := built_group_iff.1 built
    rw [toValue]
    refine readsAs_group ?_ ?_ ?_
    · cases conjuncts <;> simp [stringMember?, branchMembers, Value.string?]
    · have written := branchReadsAs_written fun f hf => first f hf (builtFirst f hf)
      cases conjuncts <;> cases disjuncts <;> simpa [branchMembers] using written
    · have written := branchReadsAs_written fun f hf => second f hf (builtSecond f hf)
      cases conjuncts <;> cases disjuncts <;> simpa [branchMembers] using written

/-! ## Read filters -/

theorem exists_list_readsAs {items : List Value}
    (h : ∀ v ∈ items, ∃ f, ReadsAs v f ∧ f.Built) :
    ∃ list, List.Forall₂ ReadsAs items list ∧ ∀ f ∈ list, f.Built := by
  induction items with
  | nil => exact ⟨[], .nil, nofun⟩
  | cons v rest ih =>
    obtain ⟨⟨f, hf, built⟩, others⟩ := List.forall_mem_cons.1 h
    obtain ⟨list, hlist, builtList⟩ := ih others
    exact ⟨f :: list, .cons hf hlist, List.forall_mem_cons.2 ⟨built, builtList⟩⟩

/-- Every node is read both ways, as a filter without null operands. -/
theorem IsNode.exists_readsAs {v : Value} (node : IsNode v) (canonical : v.Canonical) :
    ∃ f, ReadsAs v f ∧ f.Built := by
  induction node with
  | @condition members field op kind hfield hop =>
    refine ⟨_, readsAs_condition canonical.sorted kind hfield hop, fun c hc => ?_⟩
    rw [leaves_condition, List.mem_singleton] at hc
    exact ⟨_, _, _, hc⟩
  | @group members kind branch inside ih =>
    have read (key : String) (hkey : key = "and" ∨ key = "or") :
        ∃ read, BranchReadsAs (members.get? key) read ∧ ∀ f ∈ children read, f.Built := by
      cases h : members.get? key with
      | none => exact ⟨none, .absent, nofun⟩
      | some v =>
        rcases branch key hkey v h with rfl | ⟨items, rfl⟩
        · exact ⟨none, .null, nofun⟩
        · have list := canonical.member (Members.mem_of_get? h)
          obtain ⟨list, hlist, built⟩ := exists_list_readsAs fun v hv =>
            ih key hkey items h v hv (list.item hv)
          exact ⟨some list, .list hlist, built⟩
    obtain ⟨conjuncts, first, builtFirst⟩ := read "and" (.inl rfl)
    obtain ⟨disjuncts, second, builtSecond⟩ := read "or" (.inr rfl)
    exact ⟨_, readsAs_group kind first second, built_group_iff.2 ⟨builtFirst, builtSecond⟩⟩

theorem isNode_of_decode {v : Value} {f : Filter} (h : decode v = .ok (some f)) : IsNode v := by
  cases present : v.isNull with
  | true =>
    rw [Value.eq_null_of_isNull present] at h
    cases h
  | false =>
    rw [Filter.decode_eq present] at h
    split at h
    · next sound => exact isNode_iff_malformedPlaces.2 sound
    · cases h

/-- A filter without null operands is read back from the value that it is written as, both ways. A
value that `decode` reads as a filter is read as the same filter as plain data, and written again
the filter is read as itself; the value is any one whose objects have no key twice. -/
theorem readers_agree :
    (∀ f : Filter, f.Built → decode f.toValue = .ok (some f) ∧ ofValue? f.toValue = some f) ∧
      ∀ (v : Value) (f : Filter), v.Canonical → decode v = .ok (some f) →
        ofValue? v = some f ∧ decode f.toValue = .ok (some f) := by
  refine ⟨fun f built => ?_, fun v f canonical read => ?_⟩
  · have written := built.readsAs_toValue
    exact ⟨written.decode_eq, written.2 false⟩
  · obtain ⟨g, hg, built⟩ := (isNode_of_decode read).exists_readsAs canonical
    have same : g = f := by simpa [hg.decode_eq] using read
    subst same
    exact ⟨hg.2 false, built.readsAs_toValue.decode_eq⟩

/-- A tree with an empty branch, and a value with nulls and a key that no reader asks for. -/
theorem readers_agree_of_loose_value :
    let tree : Filter := .group
      (some [.condition (.of "age" .between (some (.array [.ofNat 1, .ofNat 9]))),
        .group none (some [])]) none
    let inner : Value := .object
      [("field", .string "age"), ("kind", .string "condition"), ("note", .ofNat 1),
        ("operator", .string "is_null"), ("value", .null)]
    let loose : Value := .object
      [("and", .array [inner]), ("kind", .string "group"), ("or", .null)]
    let read : Filter := .group (some [.condition (.of "age" .isNull none)]) none
    (tree.Built ∧ decode tree.toValue = .ok (some tree) ∧ ofValue? tree.toValue = some tree) ∧
      loose.Canonical ∧ decode loose = .ok (some read) ∧ ofValue? loose = some read ∧
        decode read.toValue = .ok (some read) := by
  intro tree inner loose read
  have built : tree.Built := by
    intro c hc
    simp only [tree, leaves_group, children_some, children_none, List.flatMap_cons,
      List.flatMap_nil, leaves_condition, List.append_nil, List.mem_singleton] at hc
    exact ⟨_, _, _, hc⟩
  have canonicalInner : inner.Canonical := by
    have keys : _ = ["field", "kind", "note", "operator", "value"] := rfl
    refine .object (Members.sorted_of_keys keys (by decide)) ?_
    simp only [List.forall_mem_cons]
    exact ⟨.string _, .string _, .number _, .string _, .null, nofun⟩
  have canonical : loose.Canonical := by
    have keys : _ = ["and", "kind", "or"] := rfl
    refine .object (Members.sorted_of_keys keys (by decide)) ?_
    simp only [List.forall_mem_cons]
    exact ⟨.array (List.forall_mem_singleton.2 canonicalInner), .string _, .null, nofun⟩
  have decoded : decode loose = .ok (some read) := rfl
  exact ⟨⟨built, readers_agree.1 tree built⟩, canonical, decoded,
    readers_agree.2 loose read canonical decoded⟩

end Filter

end SchemaFilter
