import SchemaFilter.Value.Basic

/-!
# Members of objects

In sorted members a key leads to every member that has it. A value that is no object has no members,
and what a filter or a document is made of are the items of the lists under an object's keys:
`Value.itemInduction` goes through values in this way.
-/

namespace SchemaFilter

namespace Members

theorem mem_of_get? {members : Members} {key : String} {v : Value}
    (h : members.get? key = some v) : (key, v) ∈ members := by
  obtain ⟨before, after, split, -⟩ := List.lookup_eq_some_iff.1 h
  exact split ▸ List.mem_append_right before List.mem_cons_self

theorem sorted_of_keys {members : Members} {keys : List String}
    (same : members.map Prod.fst = keys) (ascending : keys.Pairwise (· < ·)) : members.Sorted := by
  subst same
  exact List.pairwise_map.1 ascending

/-- Sorted members have at most one with a key. -/
theorem Sorted.filter_eq {members : Members} (sorted : members.Sorted) (key : String) :
    members.filter (fun e => e.1 = key) = ((members.get? key).map (key, ·)).toList := by
  induction members with
  | nil => rfl
  | cons e rest ih =>
    obtain ⟨k, v⟩ := e
    obtain ⟨first, others⟩ := List.pairwise_cons.1 sorted
    rw [List.filter_cons, get?_cons]
    by_cases same : key = k
    · subst same
      have none : rest.filter (fun e => e.1 = key) = [] := by
        rw [List.filter_eq_nil_iff]
        intro e he
        have later : key < e.1 := first e he
        simpa using (String.ne_of_lt later).symm
      rw [none]
      simp
    · rw [if_neg same, if_neg (by simpa using Ne.symm same), ih others]

theorem Sorted.get?_of_mem {members : Members} (sorted : members.Sorted) {key : String} {v : Value}
    (h : (key, v) ∈ members) : members.get? key = some v := by
  have kept : (key, v) ∈ members.filter (fun e => e.1 = key) := by simp [h]
  rw [sorted.filter_eq key] at kept
  simpa using kept

end Members

namespace Value

/-- A property of all values that are no objects, which passes to an object from the items of the
lists under its keys, holds of all values. -/
@[elab_as_elim]
theorem itemInduction {motive : Value → Prop} (other : ∀ v : Value, v.members? = none → motive v)
    (object : ∀ members : Members, (∀ key items, members.get? key = some (.array items) →
      ∀ v ∈ items, motive v) → motive (.object members)) (v : Value) : motive v := by
  -- an array has to carry the property to the object around it
  let carries (v : Value) : Prop := ∀ items, v = .array items → ∀ w ∈ items, motive w
  refine (@Value.rec (fun v => motive v ∧ carries v) (fun items => ∀ w ∈ items, motive w)
    (fun members => ∀ e ∈ members, carries e.2) (fun e => carries e.2)
    ?null ?bool ?number ?string ?array ?object ?noItems ?items ?noMembers ?members ?member v).1
  case null => exact ⟨other _ rfl, nofun⟩
  case bool | number | string =>
    intro _
    exact ⟨other _ rfl, nofun⟩
  case array =>
    intro items inside
    refine ⟨other _ rfl, fun _ same => ?_⟩
    cases same
    exact inside
  case object =>
    intro members inside
    refine ⟨object members fun key items h => ?_, nofun⟩
    exact inside _ (Members.mem_of_get? h) items rfl
  case noItems | noMembers => exact nofun
  case items =>
    intro w items head tail
    exact List.forall_mem_cons.2 ⟨head.1, tail⟩
  case members =>
    intro e members head tail
    exact List.forall_mem_cons.2 ⟨head, tail⟩
  case member =>
    intro key v inside
    exact inside.2

end Value

end SchemaFilter
