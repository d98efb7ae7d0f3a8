import SchemaFilter.Proofs.Filter.Blame

/-!
# Conditions in tree order

The leaves of a filter are the conditions that occur in it, in the order of their places. What is
found first among the leaves is therefore found at a place that no other place with such a finding
precedes.
-/

namespace SchemaFilter.Filter

theorem Step.not_before_of_before {a b : Step} (h : a.Before b) : ¬ b.Before a := by
  cases a <;> cases b
  case key.key => exact Nat.lt_asymm h
  case index.index => exact Nat.lt_asymm h
  all_goals exact h.elim

theorem Place.not_before_of_before {a b : Place} (h : a.Before b) : ¬ b.Before a :=
  List.lex_asymm (fun before => Step.not_before_of_before before) h

/-! ## Listings -/

/-- Whether a list names exactly the conditions that stand somewhere, in the order of their
places. -/
structure Lists (stands : Place → Condition → Prop) (placed : List (Place × Condition)) : Prop where
  inOrder : placed.Pairwise fun a b => a.1.Before b.1
  mem_iff : ∀ place c, (place, c) ∈ placed ↔ stands place c

namespace Lists

variable {stands stands' : Place → Condition → Prop} {placed placed' : List (Place × Condition)}

theorem congr (h : Lists stands placed) (same : ∀ place c, stands place c ↔ stands' place c) :
    Lists stands' placed :=
  ⟨h.inOrder, fun place c => (h.mem_iff place c).trans (same place c)⟩

/-- What stands in a part stands in the whole behind the step to the part. -/
theorem below (h : Lists stands placed) (step : Step) :
    Lists (fun place c => ∃ p, stands p c ∧ place = step :: p)
      (placed.map fun (place, c) => (step :: place, c)) := by
  refine ⟨List.pairwise_map.2 (h.inOrder.imp fun before => .cons before), fun place c => ?_⟩
  rw [List.mem_map]
  constructor
  · rintro ⟨⟨p, d⟩, mem, same⟩
    obtain ⟨rfl, rfl⟩ := Prod.mk.inj same
    exact ⟨p, (h.mem_iff p d).1 mem, rfl⟩
  · rintro ⟨p, hp, rfl⟩
    exact ⟨(p, c), (h.mem_iff p c).2 hp, rfl⟩

theorem append (h : Lists stands placed) (h' : Lists stands' placed')
    (before : ∀ place c place' c', stands place c → stands' place' c' → place.Before place') :
    Lists (fun place c => stands place c ∨ stands' place c) (placed ++ placed') := by
  refine ⟨List.pairwise_append.2 ⟨h.inOrder, h'.inOrder, fun e he e' he' => ?_⟩, fun place c => ?_⟩
  · exact before _ _ _ _ ((h.mem_iff e.1 e.2).1 he) ((h'.mem_iff e'.1 e'.2).1 he')
  · rw [List.mem_append, h.mem_iff, h'.mem_iff]

end Lists

/-- Whether the leaves of a filter are what occurs in it, in the order of places. -/
def IsListed (f : Filter) : Prop :=
  ∃ placed, Lists (fun place c => f.Occurs c place) placed ∧ placed.map Prod.snd = f.leaves

theorem exists_lists_items {list : List Filter} (h : ∀ f ∈ list, f.IsListed) (start : Nat) :
    ∃ placed, Lists (fun place c => ∃ i f p, list[i]? = some f ∧ f.Occurs c p ∧
        place = .index (start + i) :: p) placed ∧
      placed.map Prod.snd = list.flatMap leaves := by
  induction list generalizing start with
  | nil => exact ⟨[], ⟨List.Pairwise.nil, by simp⟩, rfl⟩
  | cons f rest ih =>
    rw [List.forall_mem_cons] at h
    obtain ⟨first, lists, leavesOfFirst⟩ := h.1
    obtain ⟨others, lists', leavesOfOthers⟩ := ih h.2 (start + 1)
    refine ⟨_, ((lists.below (.index start)).append lists' ?_).congr fun place c => ?_, ?_⟩
    · rintro _ c _ d ⟨p, -, rfl⟩ ⟨i, g, q, -, -, rfl⟩
      exact .rel (show start < start + 1 + i by omega)
    · constructor
      · rintro (⟨p, occurs, rfl⟩ | ⟨i, g, p, hg, occurs, rfl⟩)
        · exact ⟨0, f, p, rfl, occurs, rfl⟩
        · exact ⟨i + 1, g, p, hg, occurs, by rw [Nat.add_assoc, Nat.add_comm 1]⟩
      · rintro ⟨i, g, p, hg, occurs, rfl⟩
        cases i with
        | zero =>
          cases hg
          exact .inl ⟨p, occurs, rfl⟩
        | succ i => exact .inr ⟨i, g, p, hg, occurs, by rw [Nat.add_assoc, Nat.add_comm 1]⟩
    · simpa [Function.comp_def, leavesOfOthers] using leavesOfFirst

theorem isListed (f : Filter) : f.IsListed := by
  induction f with
  | condition c =>
    refine ⟨[([], c)], ⟨List.pairwise_singleton _ _, fun place d => ?_⟩, by simp⟩
    rw [List.mem_singleton, Prod.mk.injEq]
    constructor
    · rintro ⟨rfl, rfl⟩
      exact .here
    · intro occurs
      cases occurs
      exact ⟨rfl, rfl⟩
  | group conjuncts disjuncts first second =>
    obtain ⟨placed, lists, leavesOfFirst⟩ := exists_lists_items first 0
    obtain ⟨placed', lists', leavesOfSecond⟩ := exists_lists_items second 0
    refine ⟨_, ((lists.below (.key "and")).append (lists'.below (.key "or")) ?_).congr
      fun place c => ?_, ?_⟩
    · rintro _ c _ d ⟨p, -, rfl⟩ ⟨q, -, rfl⟩
      exact .rel (show Step.Before (.key "and") (.key "or") by decide)
    · constructor
      · rintro (⟨_, ⟨i, f, p, hf, occurs, rfl⟩, rfl⟩ | ⟨_, ⟨i, f, p, hf, occurs, rfl⟩, rfl⟩)
        · exact .conjunct (by simpa using hf) occurs
        · exact .disjunct (by simpa using hf) occurs
      · intro occurs
        cases occurs with
        | conjunct hf occurs => exact .inl ⟨_, ⟨_, _, _, hf, occurs, rfl⟩, by simp⟩
        | disjunct hf occurs => exact .inr ⟨_, ⟨_, _, _, hf, occurs, rfl⟩, by simp⟩
    · simp [Function.comp_def, ← leavesOfFirst, ← leavesOfSecond]

/-- The leaves are the conditions that occur somewhere. -/
theorem mem_leaves_iff {f : Filter} {c : Condition} :
    c ∈ f.leaves ↔ ∃ place, f.Occurs c place := by
  obtain ⟨placed, lists, same⟩ := f.isListed
  simp [← same, lists.mem_iff]

/-- What is found first among the leaves is found at the first place at which anything is found. -/
theorem occurs_of_findSome?_leaves {α : Type} {find : Condition → Option α} {f : Filter} {a : α}
    (h : f.leaves.findSome? find = some a) :
    ∃ c place, f.Occurs c place ∧ find c = some a ∧
      ∀ d other, f.Occurs d other → other.Before place → find d = none := by
  obtain ⟨placed, lists, same⟩ := f.isListed
  rw [← same, List.findSome?_map, List.findSome?_eq_some_iff] at h
  obtain ⟨before, ⟨place, c⟩, after, split, found, none⟩ := h
  refine ⟨c, place, (lists.mem_iff place c).1 (by simp [split]), found, ?_⟩
  intro d other occurs earlier
  have mem := (lists.mem_iff other d).2 occurs
  have order := lists.inOrder
  rw [split, List.pairwise_append, List.pairwise_cons] at order
  rw [split, List.mem_append, List.mem_cons] at mem
  rcases mem with mem | same | mem
  · exact none _ mem
  · cases same
    exact absurd earlier (Place.not_before_of_before earlier)
  · exact absurd earlier (Place.not_before_of_before (order.2.1.1 _ mem))

end SchemaFilter.Filter
