import SchemaFilter.Filter.Conditions

/-!
# Leaves and induction

The branches of a group are lists that may be absent, and an absent branch has no children.
`Filter.induction` proves a property of all filters from its conditions up: for a group the property
may be used of every child of either branch.

The leaves of a filter are its conditions in tree order. Compiling and evaluating treat conditions
one by one, so what they need is a matter of the leaves.
-/

namespace SchemaFilter.Filter

def children (branch : Option (List Filter)) : List Filter :=
  branch.getD []

@[simp] theorem children_none : children none = [] := rfl

@[simp] theorem children_some (list : List Filter) : children (some list) = list := rfl

/-- A property of conditions that passes from the children to their group holds of all filters. -/
@[elab_as_elim, induction_eliminator]
theorem induction {motive : Filter → Prop} (condition : ∀ c, motive (.condition c))
    (group : ∀ conjuncts disjuncts, (∀ f ∈ children conjuncts, motive f) →
      (∀ f ∈ children disjuncts, motive f) → motive (.group conjuncts disjuncts))
    (f : Filter) : motive f :=
  @Filter.rec motive (fun branch => ∀ f ∈ children branch, motive f)
    (fun list => ∀ f ∈ list, motive f) condition
    (fun conjuncts disjuncts first second => group conjuncts disjuncts first second)
    (fun _ h => by simp at h) (fun _ list => list) (fun _ h => by simp at h)
    (fun _ _ head tail _ h => (List.mem_cons.1 h).elim (fun same => same ▸ head) (tail _)) f

mutual

/-- The conditions of a filter in tree order. -/
def leaves : Filter → List Condition
  | condition c => [c]
  | group conjuncts disjuncts => branchLeaves conjuncts ++ branchLeaves disjuncts

def branchLeaves : Option (List Filter) → List Condition
  | none => []
  | some children => listLeaves children

def listLeaves : List Filter → List Condition
  | [] => []
  | child :: rest => leaves child ++ listLeaves rest

end

@[simp] theorem leaves_condition (c : Condition) : (condition c).leaves = [c] := by
  rw [leaves]

theorem listLeaves_eq (list : List Filter) : listLeaves list = list.flatMap leaves := by
  induction list with
  | nil => rw [listLeaves, List.flatMap_nil]
  | cons child rest ih => rw [listLeaves, ih, List.flatMap_cons]

theorem branchLeaves_eq (branch : Option (List Filter)) :
    branchLeaves branch = (children branch).flatMap leaves := by
  cases branch with
  | none => rw [branchLeaves, children_none, List.flatMap_nil]
  | some list => rw [branchLeaves, children_some, listLeaves_eq]

/-- The leaves of a group are those of its children, conjuncts first. -/
@[simp] theorem leaves_group (conjuncts disjuncts : Option (List Filter)) :
    (group conjuncts disjuncts).leaves =
      (children conjuncts).flatMap leaves ++ (children disjuncts).flatMap leaves := by
  rw [leaves, branchLeaves_eq, branchLeaves_eq]

/-- What holds of all leaves of a group holds of all leaves of every child. -/
theorem forall_leaves_group {P : Condition → Prop} {conjuncts disjuncts : Option (List Filter)} :
    (∀ c ∈ (group conjuncts disjuncts).leaves, P c) ↔
      (∀ f ∈ children conjuncts, ∀ c ∈ f.leaves, P c) ∧
        ∀ f ∈ children disjuncts, ∀ c ∈ f.leaves, P c := by
  simp only [leaves_group, List.mem_append, List.mem_flatMap]
  constructor
  · intro h
    exact ⟨fun f hf c hc => h c (.inl ⟨f, hf, hc⟩), fun f hf c hc => h c (.inr ⟨f, hf, hc⟩)⟩
  · rintro ⟨first, second⟩ c (⟨f, hf, hc⟩ | ⟨f, hf, hc⟩)
    · exact first f hf c hc
    · exact second f hf c hc

def allLeaves : Option Filter → List Condition
  | none => []
  | some f => f.leaves

mutual

/-- The paths put aside, the conditions of a filter are its leaves. -/
theorem conditionsAt_map_snd (path : String) :
    (f : Filter) → (f.conditionsAt path).map (·.2) = f.leaves
  | condition c => by simp [conditionsAt]
  | group conjuncts disjuncts => by
    simp [conditionsAt, branchConditions_map_snd, branchLeaves_eq]

theorem branchConditions_map_snd (path : String) :
    (branch : Option (List Filter)) →
      (branchConditions path branch).map (·.2) = branchLeaves branch
  | none => by simp [branchConditions, branchLeaves]
  | some list => by
    simpa [branchConditions, branchLeaves] using listConditions_map_snd path 0 list

theorem listConditions_map_snd (path : String) (index : Nat) :
    (list : List Filter) → (listConditions path index list).map (·.2) = listLeaves list
  | [] => by simp [listConditions, listLeaves]
  | child :: rest => by
    simp [listConditions, listLeaves, conditionsAt_map_snd, listConditions_map_snd]

end

end SchemaFilter.Filter
