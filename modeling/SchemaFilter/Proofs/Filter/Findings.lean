import SchemaFilter.Filter.Decode
import SchemaFilter.Proofs.Value.Members

/-!
# Findings

Reading a filter comes across malformed positions and conditions that can be read. Both are found at
a `Place`, the keys and indices that lead to it from the root, and `Place.path` is how faults write
it. Places are in tree order if at the first step in which they differ the smaller index comes
first, `and` before `or`, and in a condition the field before the operator before the operand.

`nodeFindings` lists the findings of a value. It is characterised without reference to how it goes
through the value: the list is in tree order, and it names exactly the conditions that stand in the
value according to `ConditionAt`.
-/

namespace SchemaFilter.Filter

/-! ## Places -/

/-- A step from a value to one of its parts. -/
inductive Step where
  | key (name : String)
  | index (i : Nat)
deriving DecidableEq

/-- A place in a value: the steps that lead to it from the root. -/
abbrev Place := List Step

namespace Step

/-- The path of a part from the path of the whole. -/
def extend (path : String) : Step → String
  | key name => Fault.keyPath path name
  | index i => Fault.indexPath path i

/-- The keys of nodes whose order matters, in tree order. -/
def orderedKeys : List String :=
  ["and", "or", "field", "operator", "value"]

def Before : Step → Step → Prop
  | key a, key b => orderedKeys.idxOf a < orderedKeys.idxOf b
  | index i, index j => i < j
  | _, _ => False

instance : DecidableRel Before
  | key _, key _ => inferInstanceAs (Decidable (_ < _))
  | index _, index _ => inferInstanceAs (Decidable (_ < _))
  | key _, index _ => isFalse id
  | index _, key _ => isFalse id

end Step

namespace Place

/-- How faults write a place. -/
def path (place : Place) : String :=
  place.foldl Step.extend Fault.rootPath

/-- Tree order: a whole before its parts, and otherwise the order of the first steps that differ. -/
def Before (a b : Place) : Prop :=
  List.Lex Step.Before a b

@[simp] theorem path_nil : path [] = Fault.rootPath := rfl

@[simp] theorem path_append_key (place : Place) (name : String) :
    path (place ++ [.key name]) = Fault.keyPath place.path name := by
  rw [path, List.foldl_append]
  rfl

@[simp] theorem path_append_index (place : Place) (i : Nat) :
    path (place ++ [.index i]) = Fault.indexPath place.path i := by
  rw [path, List.foldl_append]
  rfl

/-- Places behind different steps are in the order of these steps. -/
theorem before_of_step {a b : Step} (h : a.Before b) (place first second : Place) :
    Before (place ++ a :: first) (place ++ b :: second) := by
  induction place with
  | nil => exact .rel h
  | cons step place ih => exact .cons ih

end Place

/-! ## Findings -/

/-- What reading a filter comes across. -/
inductive Finding where
  | malformed (place : Place) (message : String)
  | condition (place : Place) (c : Condition)

namespace Finding

def place : Finding → Place
  | malformed place _ => place
  | condition place _ => place

/-- The structural fault of a finding, if it is one. -/
def fault? : Finding → Option Fault
  | malformed place message => some { path := place.path, message }
  | condition _ _ => none

/-- A condition with its path, if that is what has been found. -/
def condition? : Finding → Option (String × Condition)
  | malformed _ _ => none
  | condition place c => some (place.path, c)

/-- The faults of a finding if conditions are inspected. -/
def faults (inspect : Inspection) : Finding → List Fault
  | malformed place message => [{ path := place.path, message }]
  | condition place c => inspect c place.path

end Finding

def fieldFindings (place : Place) (members : Members) : List Finding :=
  match stringMember? members "field" with
  | some _ => []
  | none => [.malformed (place ++ [.key "field"]) "\"field\" must be a string"]

def operatorFindings (place : Place) (members : Members) : List Finding :=
  match stringMember? members "operator" with
  | none => [.malformed (place ++ [.key "operator"]) "\"operator\" must be a string"]
  | some name =>
    match Operator.ofName? name with
    | some _ => []
    | none => [.malformed (place ++ [.key "operator"]) (unknownOperatorMessage name)]

/-- The findings of a condition: itself, or what keeps it from being read. -/
def conditionFindings (place : Place) (members : Members) : List Finding :=
  match stringMember? members "field", (stringMember? members "operator").bind Operator.ofName? with
  | some field, some op => [.condition place (Condition.of field op (members.get? "value"))]
  | _, _ => fieldFindings place members ++ operatorFindings place members

mutual

def nodeFindings (place : Place) : Value → List Finding
  | .object members =>
    match stringMember? members "kind" with
    | some "condition" => conditionFindings place members
    | some "group" => branchFindings place "and" members ++ branchFindings place "or" members
    | some other =>
      [.malformed (place ++ [.key "kind"]) ("Unknown node kind \"" ++ other ++
        "\" (expected \"condition\" or \"group\")")]
    | none =>
      [.malformed (place ++ [.key "kind"])
        "Filter node requires a \"kind\" of \"condition\" or \"group\""]
  | _ => [.malformed place "Filter node must be an object"]

def branchFindings (place : Place) (key : String) : List (String × Value) → List Finding
  | [] => []
  | (k, v) :: rest =>
    if k = key then
      match v with
      | .null => []
      | .array items => itemFindings (place ++ [.key key]) 0 items
      | _ => [.malformed (place ++ [.key key]) ("\"" ++ key ++ "\" must be an array")]
    else branchFindings place key rest

def itemFindings (place : Place) (index : Nat) : List Value → List Finding
  | [] => []
  | v :: vs => nodeFindings (place ++ [.index index]) v ++ itemFindings place (index + 1) vs

end

/-! ## Order -/

/-- Whether findings are in tree order and all of them lie at a place or below it. -/
def InOrderBelow (place : Place) (findings : List Finding) : Prop :=
  findings.Pairwise (fun a b => a.place.Before b.place) ∧ ∀ f ∈ findings, place <+: f.place

theorem inOrderBelow_nil (place : Place) : InOrderBelow place [] :=
  ⟨List.Pairwise.nil, fun _ h => by cases h⟩

theorem inOrderBelow_singleton {place : Place} {f : Finding} (h : place <+: f.place) :
    InOrderBelow place [f] :=
  ⟨List.pairwise_singleton _ _, fun g hg => by rw [List.mem_singleton.1 hg]; exact h⟩

/-- What is in order below a part is in order below the whole. -/
theorem InOrderBelow.whole {place : Place} {step : Step} {findings : List Finding}
    (h : InOrderBelow (place ++ [step]) findings) : InOrderBelow place findings :=
  ⟨h.1, fun f hf => (List.prefix_append place [step]).trans (h.2 f hf)⟩

/-- The findings of an earlier part precede those of all later parts. -/
theorem InOrderBelow.append {place : Place} {step : Step} {first second : List Finding}
    (h : InOrderBelow (place ++ [step]) first) (others : InOrderBelow place second)
    (later : ∀ f ∈ second, ∃ next, step.Before next ∧ place ++ [next] <+: f.place) :
    InOrderBelow place (first ++ second) := by
  refine ⟨List.pairwise_append.2 ⟨h.1, others.1, fun f hf g hg => ?_⟩, fun f hf => ?_⟩
  · obtain ⟨below, hbelow⟩ := h.2 f hf
    obtain ⟨next, before, below', hbelow'⟩ := later g hg
    rw [← hbelow, ← hbelow', List.append_assoc, List.append_assoc]
    exact Place.before_of_step before place below below'
  · rcases List.mem_append.1 hf with hf | hf
    · exact h.whole.2 f hf
    · exact others.2 f hf

theorem inOrderBelow_fieldFindings (place : Place) (members : Members) :
    InOrderBelow (place ++ [.key "field"]) (fieldFindings place members) := by
  unfold fieldFindings
  split
  · exact inOrderBelow_nil _
  · exact inOrderBelow_singleton List.prefix_rfl

theorem inOrderBelow_operatorFindings (place : Place) (members : Members) :
    InOrderBelow (place ++ [.key "operator"]) (operatorFindings place members) := by
  unfold operatorFindings
  split
  · exact inOrderBelow_singleton List.prefix_rfl
  · split
    · exact inOrderBelow_nil _
    · exact inOrderBelow_singleton List.prefix_rfl

theorem inOrderBelow_conditionFindings (place : Place) (members : Members) :
    InOrderBelow place (conditionFindings place members) := by
  unfold conditionFindings
  split
  · exact inOrderBelow_singleton List.prefix_rfl
  · have operators := inOrderBelow_operatorFindings place members
    exact (inOrderBelow_fieldFindings place members).append operators.whole
      fun f hf => ⟨.key "operator", by decide, operators.2 f hf⟩

mutual

/-- The findings of a node are in tree order. -/
theorem inOrderBelow_nodeFindings (place : Place) :
    (v : Value) → InOrderBelow place (nodeFindings place v)
  | .object members => by
    unfold nodeFindings
    split
    · exact inOrderBelow_conditionFindings place members
    · have disjuncts := inOrderBelow_branchFindings place "or" members
      exact (inOrderBelow_branchFindings place "and" members).append disjuncts.whole
        fun f hf => ⟨.key "or", by decide, disjuncts.2 f hf⟩
    · exact inOrderBelow_singleton (List.prefix_append _ _)
    · exact inOrderBelow_singleton (List.prefix_append _ _)
  | .null | .bool _ | .number _ | .string _ | .array _ => by
    unfold nodeFindings
    exact inOrderBelow_singleton List.prefix_rfl

theorem inOrderBelow_branchFindings (place : Place) (key : String) :
    (members : List (String × Value)) →
      InOrderBelow (place ++ [.key key]) (branchFindings place key members)
  | [] => by simpa [branchFindings] using inOrderBelow_nil _
  | (k, .array items) :: rest => by
    unfold branchFindings
    split
    · exact (inOrderBelow_itemFindings (place ++ [.key key]) 0 items).1
    · exact inOrderBelow_branchFindings place key rest
  | (k, .null) :: rest => by
    unfold branchFindings
    split
    · exact inOrderBelow_nil _
    · exact inOrderBelow_branchFindings place key rest
  | (k, .bool _) :: rest | (k, .number _) :: rest | (k, .string _) :: rest
  | (k, .object _) :: rest => by
    unfold branchFindings
    split
    · exact inOrderBelow_singleton List.prefix_rfl
    · exact inOrderBelow_branchFindings place key rest

/-- The findings of a list are in tree order, and none lies below an index before the first. -/
theorem inOrderBelow_itemFindings (place : Place) (index : Nat) :
    (items : List Value) → InOrderBelow place (itemFindings place index items) ∧
      ∀ f ∈ itemFindings place index items,
        ∃ i, index ≤ i ∧ place ++ [.index i] <+: f.place
  | [] => by
    unfold itemFindings
    exact ⟨inOrderBelow_nil _, fun f hf => by cases hf⟩
  | v :: vs => by
    unfold itemFindings
    have head := inOrderBelow_nodeFindings (place ++ [.index index]) v
    obtain ⟨tail, later⟩ := inOrderBelow_itemFindings place (index + 1) vs
    refine ⟨head.append tail fun f hf => ?_, fun f hf => ?_⟩
    · obtain ⟨i, le, below⟩ := later f hf
      exact ⟨.index i, le, below⟩
    · rcases List.mem_append.1 hf with hf | hf
      · exact ⟨index, Nat.le_refl _, head.2 f hf⟩
      · obtain ⟨i, le, below⟩ := later f hf
        exact ⟨i, Nat.le_of_succ_le le, below⟩

end

/-! ## Where findings come from -/

section Origin

variable {place : Place} {members : Members} {f : Finding}

theorem nodeFindings_of_members?_eq_none {v : Value} (other : v.members? = none) :
    nodeFindings place v = [.malformed place "Filter node must be an object"] := by
  cases v with
  | object members => cases other
  | _ => simp [nodeFindings]

/-- A finding in a list is one in an item, at the index that the item has there. -/
theorem mem_itemFindings_iff {index : Nat} {items : List Value} :
    f ∈ itemFindings place index items ↔
      ∃ i v, items[i]? = some v ∧ f ∈ nodeFindings (place ++ [.index (index + i)]) v := by
  induction items generalizing index with
  | nil => simp [itemFindings]
  | cons w rest ih =>
    rw [itemFindings, List.mem_append, ih]
    constructor
    · rintro (h | ⟨i, v, hv, h⟩)
      · exact ⟨0, w, rfl, h⟩
      · exact ⟨i + 1, v, hv, by rwa [Nat.add_comm i 1, ← Nat.add_assoc]⟩
    · rintro ⟨i, v, hv, h⟩
      cases i with
      | zero =>
        cases hv
        exact .inl h
      | succ i => exact .inr ⟨i, v, hv, by rwa [Nat.add_comm i 1, ← Nat.add_assoc] at h⟩

/-- A finding in a branch is one in an item of its list, or that it is no list. -/
theorem mem_branchFindings_iff {key : String} :
    f ∈ branchFindings place key members ↔
      (∃ items i v, members.get? key = some (.array items) ∧ items[i]? = some v ∧
        f ∈ nodeFindings (place ++ [.key key, .index i]) v) ∨
      ∃ v, members.get? key = some v ∧ v.isNull = false ∧ v.items? = none ∧
        f = .malformed (place ++ [.key key]) ("\"" ++ key ++ "\" must be an array") := by
  induction members with
  | nil => simp [branchFindings]
  | cons e rest ih =>
    obtain ⟨k, w⟩ := e
    rw [Members.get?_cons]
    by_cases same : k = key
    · subst same
      rw [if_pos rfl]
      cases w <;> simp [branchFindings, mem_itemFindings_iff, Value.isNull, Value.items?]
    · unfold branchFindings
      rw [if_neg same, if_neg (Ne.symm same), ih]

theorem nodeFindings_of_condition (kind : stringMember? members "kind" = some "condition") :
    nodeFindings place (.object members) = conditionFindings place members := by
  simp only [nodeFindings, kind]

theorem mem_nodeFindings_of_group (kind : stringMember? members "kind" = some "group") :
    f ∈ nodeFindings place (.object members) ↔
      ∃ key, (key = "and" ∨ key = "or") ∧ f ∈ branchFindings place key members := by
  simp only [nodeFindings, kind, List.mem_append, or_and_right, exists_or, exists_eq_left]

end Origin

/-! ## Conditions -/

/-- Where the conditions of a value stand that can be read: a node of kind `condition` with a field
and the name of an operator is one, and those of an item of a branch are reached through the index
that the item has in the value. -/
inductive ConditionAt : Value → Place → Condition → Prop where
  | here {members : Members} {field : String} {op : Operator}
      (kind : stringMember? members "kind" = some "condition")
      (hfield : stringMember? members "field" = some field)
      (hop : stringMember? members "operator" = some op.name) :
      ConditionAt (.object members) [] (Condition.of field op (members.get? "value"))
  | item {members : Members} {key : String} {items : List Value} {i : Nat} {v : Value}
      {place : Place} {c : Condition}
      (kind : stringMember? members "kind" = some "group")
      (branch : key = "and" ∨ key = "or") (hitems : members.get? key = some (.array items))
      (hv : items[i]? = some v) (h : ConditionAt v place c) :
      ConditionAt (.object members) (.key key :: .index i :: place) c

theorem condition_mem_conditionFindings_iff {place q : Place} {members : Members} {c : Condition} :
    .condition q c ∈ conditionFindings place members ↔
      q = place ∧ ∃ field op, stringMember? members "field" = some field ∧
        stringMember? members "operator" = some op.name ∧
          c = Condition.of field op (members.get? "value") := by
  unfold conditionFindings
  split
  · next field op hfield hop =>
    obtain ⟨name, hname, named⟩ := Option.bind_eq_some_iff.1 hop
    rw [← Operator.name_of_ofName? named] at hname
    rw [List.mem_singleton, Finding.condition.injEq]
    constructor
    · rintro ⟨rfl, rfl⟩
      exact ⟨rfl, field, op, hfield, hname, rfl⟩
    · rintro ⟨rfl, field', op', hfield', hop', rfl⟩
      rw [hfield] at hfield'
      rw [hname, Option.some.injEq] at hop'
      have same : op = op' := by simpa using congrArg Operator.ofName? hop'
      cases hfield'
      exact ⟨rfl, same ▸ rfl⟩
  · next missing =>
    refine iff_of_false ?_ ?_
    · rw [List.mem_append, not_or, fieldFindings, operatorFindings]
      constructor
      · split <;> simp
      · split
        · simp
        · split <;> simp
    · rintro ⟨-, field, op, hfield, hop, -⟩
      exact missing field op hfield (by simp [hop])

/-- The conditions among the findings of a node are those that stand in it, at their places. -/
theorem condition_mem_nodeFindings_iff {place q : Place} {c : Condition} {v : Value} :
    .condition q c ∈ nodeFindings place v ↔ ∃ p, q = place ++ p ∧ ConditionAt v p c := by
  induction v using Value.itemInduction generalizing place q with
  | other v other =>
    rw [nodeFindings_of_members?_eq_none other]
    refine iff_of_false (by simp) ?_
    rintro ⟨p, -, h⟩
    cases h <;> cases other
  | object members inside =>
    cases kind : stringMember? members "kind" with
    | none =>
      refine iff_of_false (by simp [nodeFindings, kind]) ?_
      rintro ⟨p, -, h⟩
      cases h with
      | here is => simp [kind] at is
      | item is => simp [kind] at is
    | some name =>
      -- only the two kinds of nodes have conditions, and those of a group stand in its branches
      by_cases isCondition : name = "condition"
      · subst isCondition
        rw [nodeFindings_of_condition kind, condition_mem_conditionFindings_iff]
        constructor
        · rintro ⟨rfl, field, op, hfield, hop, rfl⟩
          exact ⟨[], by simp, .here kind hfield hop⟩
        · rintro ⟨p, rfl, h⟩
          cases h with
          | here _ hfield hop => exact ⟨by simp, _, _, hfield, hop, rfl⟩
          | item other => simp [kind] at other
      · by_cases isGroup : name = "group"
        · subst isGroup
          simp only [mem_nodeFindings_of_group kind, mem_branchFindings_iff]
          constructor
          · rintro ⟨key, branch, ⟨items, i, v, hitems, hv, h⟩ | ⟨_, _, _, _, same⟩⟩
            · obtain ⟨p, rfl, stands⟩ := (inside key items hitems v (List.mem_of_getElem? hv)).1 h
              exact ⟨.key key :: .index i :: p, by simp, .item kind branch hitems hv stands⟩
            · cases same
          · rintro ⟨p, rfl, h⟩
            cases h with
            | here other => simp [kind] at other
            | @item _ key items i v p _ _ branch hitems hv h =>
              refine ⟨key, branch, .inl ⟨items, i, v, hitems, hv, ?_⟩⟩
              exact (inside key items hitems v (List.mem_of_getElem? hv)).2 ⟨p, by simp, h⟩
        · refine iff_of_false (by simp [nodeFindings, kind]) ?_
          rintro ⟨p, -, h⟩
          cases h with
          | here is => exact isCondition (by simpa [kind] using is)
          | item is => exact isGroup (by simpa [kind] using is)

end SchemaFilter.Filter
