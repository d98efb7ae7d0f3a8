import SchemaFilter.Proofs.Filter.Findings
import SchemaFilter.Proofs.Filter.WellTyped
import SchemaFilter.Proofs.Text.Numerals

/-!
# Blame

Every fault of a filter belongs to one condition: its path leads to the condition or to a part of
it, so it extends the path of the condition. Paths are texts, and that one extends another is said
of the texts. A key ends where a bracket opens and an index where it closes, so the path of a
condition is not the front of a path into any other condition. Hence blame is unambiguous: the
conditions whose paths are extended by the path of some fault are those that are not well typed.
-/

namespace SchemaFilter

namespace Fault

/-- Whether a path goes on from another one, or is the same. -/
def Extends (path whole : String) : Prop :=
  ∃ rest, path = whole ++ rest

theorem Extends.trans {path part whole : String} (h : Extends path part)
    (h' : Extends part whole) : Extends path whole := by
  obtain ⟨rest, rfl⟩ := h
  obtain ⟨rest', rfl⟩ := h'
  exact ⟨rest' ++ rest, String.append_assoc⟩

theorem extends_self (path : String) : Extends path path :=
  ⟨"", by simp⟩

theorem extends_keyPath (path key : String) : Extends (keyPath path key) path :=
  ⟨"." ++ key, String.append_assoc⟩

theorem extends_indexPath (path : String) (index : Nat) : Extends (indexPath path index) path :=
  ⟨"[" ++ toString index ++ "]", by simp [indexPath, String.append_assoc]⟩

/-- Whether a fault is found at a path or further on, and not for a name that is not declared. -/
structure IsWithin (path : String) (fault : Fault) : Prop where
  extends_path : Extends fault.path path
  untagged : fault.unknownField = none

theorem isWithin_of_mem_singleton {path message : String} {fault : Fault}
    (h : fault ∈ [{ path, message : Fault }]) : IsWithin path fault := by
  rw [List.mem_singleton.1 h]
  exact ⟨extends_self path, rfl⟩

theorem IsWithin.whole {part whole : String} {fault : Fault} (h : IsWithin part fault)
    (h' : Extends part whole) : IsWithin whole fault :=
  ⟨h.extends_path.trans h', h.untagged⟩

end Fault

open Fault (Extends extends_self extends_keyPath extends_indexPath)

namespace Filter

/-! ## Occurrences -/

/-- Where a condition stands in a filter: a condition at its root, and what stands in an item of a
branch behind the key of the branch and the index of the item. -/
inductive Occurs (c : Condition) : Filter → Place → Prop where
  | here : Occurs c (.condition c) []
  | conjunct {conjuncts disjuncts : Option (List Filter)} {i : Nat} {f : Filter} {place : Place}
      (hf : (children conjuncts)[i]? = some f) (h : Occurs c f place) :
      Occurs c (.group conjuncts disjuncts) (.key "and" :: .index i :: place)
  | disjunct {conjuncts disjuncts : Option (List Filter)} {i : Nat} {f : Filter} {place : Place}
      (hf : (children disjuncts)[i]? = some f) (h : Occurs c f place) :
      Occurs c (.group conjuncts disjuncts) (.key "or" :: .index i :: place)

theorem mem_listConditions_iff {path : String} {index : Nat} {list : List Filter}
    {e : String × Condition} : e ∈ listConditions path index list ↔
      ∃ (i : Nat) (f : Filter), list[i]? = some f ∧
        e ∈ f.conditionsAt (Fault.indexPath path (index + i)) := by
  induction list generalizing index with
  | nil => simp [listConditions]
  | cons child rest ih =>
    rw [listConditions, List.mem_append, ih]
    constructor
    · rintro (h | ⟨i, f, hf, h⟩)
      · exact ⟨0, child, rfl, h⟩
      · exact ⟨i + 1, f, hf, by rwa [Nat.add_comm i, ← Nat.add_assoc]⟩
    · rintro ⟨i, f, hf, h⟩
      cases i with
      | zero =>
        cases hf
        exact .inl h
      | succ i => exact .inr ⟨i, f, hf, by rwa [Nat.add_assoc, Nat.add_comm 1]⟩

theorem mem_branchConditions_iff {path : String} {branch : Option (List Filter)}
    {e : String × Condition} : e ∈ branchConditions path branch ↔
      ∃ (i : Nat) (f : Filter), (children branch)[i]? = some f ∧
        e ∈ f.conditionsAt (Fault.indexPath path i) := by
  cases branch with
  | none => simp [branchConditions]
  | some list => simp [branchConditions, mem_listConditions_iff]

/-- The conditions that are listed for a filter are those that occur in it, with the paths of their
places. -/
theorem mem_conditionsAt_iff {f : Filter} {place : Place} {path : String} {c : Condition} :
    (path, c) ∈ f.conditionsAt place.path ↔
      ∃ p, path = Place.path (place ++ p) ∧ f.Occurs c p := by
  induction f generalizing place with
  | condition d =>
    rw [conditionsAt, List.mem_singleton, Prod.mk.injEq]
    constructor
    · rintro ⟨rfl, rfl⟩
      exact ⟨[], by simp, .here⟩
    · rintro ⟨p, rfl, h⟩
      cases h
      exact ⟨by simp, rfl⟩
  | group conjuncts disjuncts first second =>
    rw [conditionsAt, List.mem_append, mem_branchConditions_iff, mem_branchConditions_iff]
    -- the path of an item is that of its place, so the statement about the item applies
    have item (key : String) (i : Nat) :
        Fault.indexPath (Fault.keyPath place.path key) i =
          Place.path (place ++ [.key key, .index i]) := by
      rw [← Place.path_append_key, ← Place.path_append_index, List.append_assoc]
      rfl
    simp only [item]
    constructor
    · rintro (⟨i, f, hf, h⟩ | ⟨i, f, hf, h⟩)
      · obtain ⟨p, rfl, occurs⟩ := (first f (List.mem_of_getElem? hf)).1 h
        exact ⟨_, by simp, .conjunct hf occurs⟩
      · obtain ⟨p, rfl, occurs⟩ := (second f (List.mem_of_getElem? hf)).1 h
        exact ⟨_, by simp, .disjunct hf occurs⟩
    · rintro ⟨p, rfl, h⟩
      cases h with
      | conjunct hf h =>
        exact .inl ⟨_, _, hf, (first _ (List.mem_of_getElem? hf)).2 ⟨_, by simp, h⟩⟩
      | disjunct hf h =>
        exact .inr ⟨_, _, hf, (second _ (List.mem_of_getElem? hf)).2 ⟨_, by simp, h⟩⟩

/-! ## Paths as texts -/

def Step.text : Step → List Char
  | key name => '.' :: name.toList
  | index i => '[' :: (toString i).toList ++ [']']

def Place.text (place : Place) : List Char :=
  place.flatMap Step.text

theorem Place.toList_path (place : Place) :
    place.path.toList = Fault.rootPath.toList ++ place.text := by
  have go (start : String) :
      (place.foldl Step.extend start).toList = start.toList ++ place.text := by
    induction place generalizing start with
    | nil => simp [Place.text]
    | cons step place ih =>
      rw [List.foldl_cons, ih, Place.text, Place.text, List.flatMap_cons, ← List.append_assoc]
      cases step <;>
        simp [Step.extend, Step.text, Fault.keyPath, Fault.indexPath, String.toList_append]
  exact go Fault.rootPath

/-- If the text of a place behind an item is the front of another one, it is an item of the same
index under the same key. -/
theorem Place.item_of_text_prefix {key key' : String} {i j : Nat} {place other : Place}
    {rest : List Char} (hkey : '[' ∉ key.toList) (hkey' : '[' ∉ key'.toList)
    (le : text (.key key :: .index i :: place) <+: text (.key key' :: .index j :: other) ++ rest) :
    key = key' ∧ i = j ∧ text place <+: text other ++ rest := by
  simp only [text, List.flatMap_cons, Step.text, List.cons_append, List.append_assoc,
    List.cons_prefix_cons, List.nil_append, true_and] at le
  obtain ⟨name, le⟩ := Text.prefix_of_marked hkey hkey' le
  obtain ⟨number, le⟩ :=
    Text.prefix_of_marked (Text.not_mem_numeral rfl i) (Text.not_mem_numeral rfl j) le
  exact ⟨String.toList_inj.1 name, Text.numeral_injective number, le⟩

/-- No place of a condition is written as the front of what is written for a place in another
condition. -/
theorem Occurs.eq_of_text_prefix {f : Filter} {c d : Condition} {place other : Place}
    {rest : List Char} (hc : f.Occurs c place) (hd : f.Occurs d other)
    (le : place.text <+: other.text ++ rest) : place = other ∧ c = d := by
  induction hc generalizing other with
  | here =>
    cases hd
    exact ⟨rfl, rfl⟩
  | conjunct hf _ ih =>
    cases hd with
    | conjunct hg hd =>
      obtain ⟨-, rfl, inside⟩ := Place.item_of_text_prefix (by decide) (by decide) le
      obtain rfl := Option.some.inj (hf.symm.trans hg)
      obtain ⟨rfl, rfl⟩ := ih hd inside
      exact ⟨rfl, rfl⟩
    | disjunct hg hd =>
      -- the two branches have different keys
      obtain ⟨key, -⟩ := Place.item_of_text_prefix (by decide) (by decide) le
      exact absurd key (by decide)
  | disjunct hf _ ih =>
    cases hd with
    | conjunct hg hd =>
      obtain ⟨key, -⟩ := Place.item_of_text_prefix (by decide) (by decide) le
      exact absurd key (by decide)
    | disjunct hg hd =>
      obtain ⟨-, rfl, inside⟩ := Place.item_of_text_prefix (by decide) (by decide) le
      obtain rfl := Option.some.inj (hf.symm.trans hg)
      obtain ⟨rfl, rfl⟩ := ih hd inside
      exact ⟨rfl, rfl⟩

/-- A path that goes on from the paths of two conditions goes on from one condition. -/
theorem Occurs.eq_of_extends {f : Filter} {c d : Condition} {place other : Place} {path : String}
    (hc : f.Occurs c place) (hd : f.Occurs d other) (h : Extends path place.path)
    (h' : Extends path other.path) : c = d := by
  obtain ⟨rest, rfl⟩ := h
  obtain ⟨rest', same⟩ := h'
  have texts := congrArg String.toList same
  rw [String.toList_append, String.toList_append, Place.toList_path, Place.toList_path,
    List.append_assoc, List.append_assoc, List.append_cancel_left_eq] at texts
  exact (hc.eq_of_text_prefix hd (texts ▸ List.prefix_append _ _)).2

end Filter

/-! ## Faults -/

namespace Field

theorem isWithin_of_mem_elementFaults {f : Field} {path : String} {v : Value} {fault : Fault}
    (h : fault ∈ f.elementFaults path v) : fault.IsWithin path := by
  unfold elementFaults at h
  split at h
  · exact Fault.isWithin_of_mem_singleton h
  · cases h

theorem isWithin_of_mem_itemFaults {f : Field} {path : String} {index : Nat} {items : List Value}
    {fault : Fault} (h : fault ∈ f.itemFaults path index items) : fault.IsWithin path := by
  induction items generalizing index with
  | nil => cases h
  | cons v rest ih =>
    rcases List.mem_append.1 h with h | h
    · exact (isWithin_of_mem_elementFaults h).whole (extends_indexPath path index)
    · exact ih h

theorem isWithin_of_mem_operandFaults {f : Field} {op : Operator} {operand : Option Value}
    {path : String} {fault : Fault} (h : fault ∈ f.operandFaults op operand path) :
    fault.IsWithin path := by
  cases op with
  | isNull | isNotNull =>
    simp only [operandFaults] at h
    split at h
    · exact Fault.isWithin_of_mem_singleton h
    · cases h
  | between =>
    simp only [operandFaults] at h
    split at h
    · exact isWithin_of_mem_itemFaults h
    · exact Fault.isWithin_of_mem_singleton h
  | isIn =>
    simp only [operandFaults] at h
    split at h
    · exact isWithin_of_mem_itemFaults h
    · exact Fault.isWithin_of_mem_singleton h
  | _ =>
    simp only [operandFaults] at h
    split at h
    · exact isWithin_of_mem_elementFaults h
    · exact Fault.isWithin_of_mem_singleton h

end Field

namespace Schema

/-- A condition on a name that is not declared has a fault with that name, and faults of declared
fields have no name. -/
theorem mem_conditionFaults_cases {s : Schema} {c : Condition} {path : String} {fault : Fault}
    (h : fault ∈ s.conditionFaults c path) :
    (s.field? c.field = none ∧ fault = .undeclared (Fault.keyPath path "field") c.field) ∨
      s.field? c.field ≠ none ∧ fault.IsWithin path := by
  unfold conditionFaults at h
  split at h
  · next undeclared => exact .inl ⟨undeclared, List.mem_singleton.1 h⟩
  · next f declared =>
    refine .inr ⟨by simp [declared], ?_⟩
    split at h
    · exact (Fault.isWithin_of_mem_singleton h).whole (extends_keyPath path "field")
    · rcases List.mem_append.1 h with h | h
      · split at h
        · cases h
        · exact (Fault.isWithin_of_mem_singleton h).whole (extends_keyPath path "operator")
      · exact (Field.isWithin_of_mem_operandFaults h).whole (extends_keyPath path "value")

theorem extends_of_mem_conditionFaults {s : Schema} {c : Condition} {path : String} {fault : Fault}
    (h : fault ∈ s.conditionFaults c path) : Extends fault.path path := by
  rcases mem_conditionFaults_cases h with ⟨-, rfl⟩ | ⟨-, within⟩
  · exact extends_keyPath path "field"
  · exact within.extends_path

/-- The faults of a filter are those of the conditions that occur in it, at their places. -/
theorem mem_faults_iff {s : Schema} {f : Filter} {fault : Fault} :
    fault ∈ s.faults (some f) ↔
      ∃ c place, f.Occurs c place ∧ fault ∈ s.conditionFaults c place.path := by
  rw [faults_some, listedFaults, List.mem_flatMap, Filter.conditions, ← Filter.Place.path_nil]
  constructor
  · rintro ⟨⟨path, c⟩, hc, h⟩
    obtain ⟨place, rfl, occurs⟩ := Filter.mem_conditionsAt_iff.1 hc
    exact ⟨c, place, occurs, h⟩
  · rintro ⟨c, place, occurs, h⟩
    exact ⟨(place.path, c), Filter.mem_conditionsAt_iff.2 ⟨place, rfl, occurs⟩, h⟩

theorem conditionFaults_eq_nil_iff_wellTyped {s : Schema} {c : Condition} {path : String} :
    s.conditionFaults c path = [] ↔ s.WellTyped c :=
  conditionFaults_eq_nil_iff.trans allows_iff_wellTyped

/-- A condition with a fault is not well typed. -/
theorem not_wellTyped_of_mem_conditionFaults {s : Schema} {c : Condition} {path : String}
    {fault : Fault} (h : fault ∈ s.conditionFaults c path) : ¬ s.WellTyped c := by
  intro sound
  rw [conditionFaults_eq_nil_iff_wellTyped.2 sound] at h
  cases h

/-- A filter is accepted exactly if all of its conditions are well typed. Otherwise those that are
not have a fault, at a path that extends their own, and no other condition has one. -/
theorem faults_blame_offenders (s : Schema) (f : Filter) :
    (s.faults (some f) = [] ↔ ∀ c place, f.Occurs c place → s.WellTyped c) ∧
      (∀ c place, f.Occurs c place →
        ((∃ fault ∈ s.faults (some f), Extends fault.path place.path) ↔ ¬ s.WellTyped c)) ∧
      ∀ fault ∈ s.faults (some f), ∃ c place, f.Occurs c place ∧ ¬ s.WellTyped c ∧
        Extends fault.path place.path := by
  refine ⟨⟨fun none c place occurs => ?_, fun sound => ?_⟩,
    fun c place occurs => ⟨?_, fun unsound => ?_⟩, fun fault h => ?_⟩
  · have faultless : s.conditionFaults c place.path = [] :=
      List.eq_nil_iff_forall_not_mem.2 fun fault h =>
        List.eq_nil_iff_forall_not_mem.1 none fault (mem_faults_iff.2 ⟨c, place, occurs, h⟩)
    exact conditionFaults_eq_nil_iff_wellTyped.1 faultless
  · refine List.eq_nil_iff_forall_not_mem.2 fun fault h => ?_
    obtain ⟨c, place, occurs, h⟩ := mem_faults_iff.1 h
    exact not_wellTyped_of_mem_conditionFaults h (sound c place occurs)
  · rintro ⟨fault, h, into⟩
    obtain ⟨d, other, occurs', h⟩ := mem_faults_iff.1 h
    -- the fault belongs to the condition whose path it extends
    rw [occurs.eq_of_extends occurs' into (extends_of_mem_conditionFaults h)]
    exact not_wellTyped_of_mem_conditionFaults h
  · have faulty : s.conditionFaults c place.path ≠ [] :=
      mt conditionFaults_eq_nil_iff_wellTyped.1 unsound
    obtain ⟨fault, h⟩ := List.exists_mem_of_ne_nil _ faulty
    exact ⟨fault, mem_faults_iff.2 ⟨c, place, occurs, h⟩, extends_of_mem_conditionFaults h⟩
  · obtain ⟨c, place, occurs, h⟩ := mem_faults_iff.1 h
    exact ⟨c, place, occurs, not_wellTyped_of_mem_conditionFaults h,
      extends_of_mem_conditionFaults h⟩

end Schema

end SchemaFilter
