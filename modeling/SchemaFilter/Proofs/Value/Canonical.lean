import SchemaFilter.Json.Parser
import SchemaFilter.Proofs.Value.Members

/-!
# Canonical values

An object keeps its members sorted by key, so that no key occurs twice. A value is canonical if all
objects in it do, at every depth. Every value that is read from a JSON text is canonical, and only
in canonical values does a key stand for all members with this key.
-/

namespace SchemaFilter

namespace Value

/-- Whether all objects in a value keep their members sorted. -/
inductive Canonical : Value → Prop where
  | null : Canonical .null
  | bool (b : Bool) : Canonical (.bool b)
  | number (n : Number) : Canonical (.number n)
  | string (s : String) : Canonical (.string s)
  | array {items : List Value} (inside : ∀ v ∈ items, Canonical v) : Canonical (.array items)
  | object {members : Members} (sorted : members.Sorted)
      (inside : ∀ e ∈ members, Canonical e.2) : Canonical (.object members)

theorem Canonical.item {items : List Value} (h : Canonical (.array items)) {v : Value}
    (hv : v ∈ items) : v.Canonical := by
  cases h with
  | array inside => exact inside v hv

theorem Canonical.sorted {members : Members} (h : Canonical (.object members)) :
    members.Sorted := by
  cases h with
  | object sorted _ => exact sorted

theorem Canonical.member {members : Members} (h : Canonical (.object members)) {key : String}
    {v : Value} (hv : (key, v) ∈ members) : v.Canonical := by
  cases h with
  | object _ inside => exact inside _ hv

theorem Canonical.tail {first : String × Value} {rest : Members}
    (h : Canonical (.object (first :: rest))) : Canonical (.object rest) := by
  cases h with
  | object sorted inside =>
    exact .object (List.pairwise_cons.1 sorted).2 (List.forall_mem_cons.1 inside).2

theorem Canonical.insert {members : Members} (h : Canonical (.object members)) (key : String)
    {v : Value} (hv : v.Canonical) : Canonical (.object (members.insert key v)) := by
  refine .object (h.sorted.insert key v) fun e he => ?_
  rcases Members.mem_of_mem_insert he with rfl | he
  · exact hv
  · exact h.member he

theorem Canonical.empty : Canonical (.object []) :=
  .object List.Pairwise.nil nofun

theorem Canonical.single (key : String) {v : Value} (hv : v.Canonical) :
    Canonical (.object [(key, v)]) :=
  Canonical.empty.insert key hv

end Value

/-! ## Values that are read -/

namespace Json

open Value (Canonical)

/-- Whether what the readers of values, items and members return with so much fuel is canonical. -/
structure ReadsCanonical (fuel : Nat) : Prop where
  value {depth : Nat} {cs rest : List Char} {v : Value}
    (read : value fuel depth cs = some (v, rest)) : v.Canonical
  items {depth : Nat} {cs rest : List Char} {vs : List Value}
    (read : items fuel depth cs = some (vs, rest)) : ∀ v ∈ vs, v.Canonical
  members {depth : Nat} {before ms : Members} {cs rest : List Char}
    (canonical : Canonical (.object before))
    (read : members fuel depth before cs = some (ms, rest)) : Canonical (.object ms)

namespace ReadsCanonical

variable {fuel depth : Nat} {cs rest : List Char}

theorem value_succ (h : ReadsCanonical fuel) {v : Value}
    (read : Json.value (fuel + 1) depth cs = some (v, rest)) : v.Canonical := by
  rw [Json.value] at read
  split at read
  · obtain ⟨_, -, same⟩ := Option.map_eq_some_iff.1 read
    cases same
    exact .string _
  · split at read
    · cases read
    · split at read
      · cases read
        exact .array nofun
      · obtain ⟨⟨vs, _⟩, inside, same⟩ := Option.map_eq_some_iff.1 read
        cases same
        exact .array (h.items inside)
  · split at read
    · cases read
    · split at read
      · cases read
        exact .empty
      · obtain ⟨⟨ms, _⟩, inside, same⟩ := Option.map_eq_some_iff.1 read
        cases same
        exact h.members .empty inside
  · obtain ⟨_, -, same⟩ := Option.map_eq_some_iff.1 read
    cases same
    exact .null
  · obtain ⟨_, -, same⟩ := Option.map_eq_some_iff.1 read
    cases same
    exact .bool true
  · obtain ⟨_, -, same⟩ := Option.map_eq_some_iff.1 read
    cases same
    exact .bool false
  · obtain ⟨_, -, same⟩ := Option.map_eq_some_iff.1 read
    cases same
    exact .number _

theorem items_succ (h : ReadsCanonical fuel) {vs : List Value}
    (read : Json.items (fuel + 1) depth cs = some (vs, rest)) : ∀ v ∈ vs, v.Canonical := by
  simp only [Json.items, bind, Option.bind_eq_some_iff] at read
  obtain ⟨⟨v, _⟩, first, read⟩ := read
  split at read
  · obtain ⟨⟨others, _⟩, behind, same⟩ := Option.bind_eq_some_iff.1 read
    cases same
    exact List.forall_mem_cons.2 ⟨h.value first, h.items behind⟩
  · cases read
    exact List.forall_mem_singleton.2 (h.value first)
  · cases read

/-- A member is inserted where its key belongs, so members stay sorted whatever order they come in. -/
theorem members_succ (h : ReadsCanonical fuel) {before ms : Members}
    (canonical : Canonical (.object before))
    (read : Json.members (fuel + 1) depth before cs = some (ms, rest)) :
    Canonical (.object ms) := by
  rw [Json.members] at read
  split at read
  · simp only [bind, Option.bind_eq_some_iff] at read
    obtain ⟨⟨key, _⟩, -, read⟩ := read
    split at read
    · obtain ⟨⟨v, _⟩, first, read⟩ := Option.bind_eq_some_iff.1 read
      have inserted := canonical.insert (String.ofList key) (h.value first)
      split at read
      · exact h.members inserted read
      · cases read
        exact inserted
      · cases read
    · cases read
  · cases read

end ReadsCanonical

/-- The readers call each other with less fuel, so all three of them are right together. -/
theorem readsCanonical (fuel : Nat) : ReadsCanonical fuel := by
  induction fuel with
  | zero => exact ⟨nofun, nofun, nofun⟩
  | succ fuel ih => exact ⟨ih.value_succ, ih.items_succ, ih.members_succ⟩

/-- Every value that is read from a text is canonical. -/
theorem canonical_of_parse {text : String} {v : Value} (h : parse text = some v) :
    v.Canonical := by
  simp only [parse, parseNested, bind, Option.bind_eq_some_iff] at h
  obtain ⟨⟨w, rest⟩, hw, h⟩ := h
  split at h
  · cases h
    exact (readsCanonical _).value hw
  · cases h

end Json

end SchemaFilter
