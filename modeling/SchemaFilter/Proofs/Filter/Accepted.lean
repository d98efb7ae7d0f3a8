import SchemaFilter.Proofs.Filter.Leaves

/-!
# What validation guarantees

A schema allows a condition if the field is declared and filterable, permits the operator, and the
operand has the shape of the operator with elements of the field's type. A filter has no faults
exactly if the schema allows all of its conditions; this is how later proofs use validation.

The elements that any type admits are scalars, and no field of a schema that `Schema.ofFields`
accepts has a reserved name.
-/

namespace SchemaFilter

/-- Whether an operand has the shape that an operator expects, all elements being as required. -/
def Operator.Fits (op : Operator) (element : Value → Prop) (operand : Option Value) : Prop :=
  match op with
  | isNull | isNotNull => operand = none
  | between => ∃ low high, operand = some (.array [low, high]) ∧ element low ∧ element high
  | isIn => ∃ items, operand = some (.array items) ∧ ∀ v ∈ items, element v
  | _ => ∃ v, operand = some v ∧ element v

/-- An operand keeps its shape when less is required of its elements. -/
theorem Operator.Fits.mono {op : Operator} {element weaker : Value → Prop}
    {operand : Option Value} (h : op.Fits element operand) (le : ∀ v, element v → weaker v) :
    op.Fits weaker operand := by
  cases op with
  | isNull => exact h
  | isNotNull => exact h
  | between =>
    obtain ⟨low, high, rfl, hlow, hhigh⟩ := h
    exact ⟨low, high, rfl, le low hlow, le high hhigh⟩
  | isIn =>
    obtain ⟨items, rfl, hitems⟩ := h
    exact ⟨items, rfl, fun v hv => le v (hitems v hv)⟩
  | _ =>
    obtain ⟨v, rfl, hv⟩ := h
    exact ⟨v, rfl, le v hv⟩

namespace Field

/-- Whether a value belongs to the type of a field. -/
def Admits (f : Field) (v : Value) : Prop :=
  f.typeFault? v = none

/-- Values of every type are scalars, so none of them is an array, an object or null. -/
theorem Admits.scalarText?_isSome {f : Field} {v : Value} (h : f.Admits v) :
    ∃ text, v.scalarText? = some text := by
  unfold Admits typeFault? at h
  cases v with
  | bool b => exact ⟨_, rfl⟩
  | number n => exact ⟨_, rfl⟩
  | string s => exact ⟨_, rfl⟩
  | null => cases ht : f.type <;> simp [ht, Value.string?] at h
  | array items => cases ht : f.type <;> simp [ht, Value.string?] at h
  | object members => cases ht : f.type <;> simp [ht, Value.string?] at h

theorem elementFaults_eq_nil_iff {f : Field} {path : String} {v : Value} :
    f.elementFaults path v = [] ↔ f.Admits v := by
  unfold elementFaults Admits
  cases f.typeFault? v <;> simp

theorem itemFaults_eq_nil_iff {f : Field} {path : String} {index : Nat} {items : List Value} :
    f.itemFaults path index items = [] ↔ ∀ v ∈ items, f.Admits v := by
  induction items generalizing index with
  | nil => simp [itemFaults]
  | cons v rest ih => simp [itemFaults, elementFaults_eq_nil_iff, ih]

/-- An operand is without faults exactly if it fits the operator with elements of the field's
type. -/
theorem operandFaults_eq_nil_iff {f : Field} {op : Operator} {operand : Option Value}
    {path : String} : f.operandFaults op operand path = [] ↔ op.Fits f.Admits operand := by
  cases op with
  | isNull => cases operand <;> simp [operandFaults, Operator.Fits]
  | isNotNull => cases operand <;> simp [operandFaults, Operator.Fits]
  | between =>
    simp only [operandFaults, Operator.Fits]
    split
    · next low high h =>
      obtain ⟨v, rfl, hv⟩ := Option.bind_eq_some_iff.1 h
      cases v with
      | array items =>
        cases hv
        simp only [itemFaults_eq_nil_iff, List.forall_mem_cons]
        constructor
        · rintro ⟨hlow, hhigh, -⟩
          exact ⟨low, high, rfl, hlow, hhigh⟩
        · rintro ⟨_, _, ⟨⟩, hlow, hhigh⟩
          exact ⟨hlow, hhigh, by simp⟩
      | _ => simp [Value.items?] at hv
    · next h =>
      refine iff_of_false (by simp) ?_
      rintro ⟨low, high, rfl, -, -⟩
      exact h low high rfl
  | isIn =>
    simp only [operandFaults, Operator.Fits]
    cases operand with
    | none => simp
    | some v => cases v <;> simp [Value.items?, itemFaults_eq_nil_iff]
  | _ => cases operand <;> simp [operandFaults, Operator.Fits, elementFaults_eq_nil_iff]

end Field

namespace Schema

def Allows (s : Schema) (c : Condition) : Prop :=
  ∃ f, s.field? c.field = some f ∧ f.filterable = true ∧ f.permits c.operator = true ∧
    c.operator.Fits f.Admits c.operand

/-- A condition is without faults exactly if the schema allows it. -/
theorem conditionFaults_eq_nil_iff {s : Schema} {c : Condition} {path : String} :
    s.conditionFaults c path = [] ↔ s.Allows c := by
  unfold conditionFaults Allows
  cases s.field? c.field with
  | none => simp
  | some f =>
    cases hf : f.filterable <;> cases hp : f.permits c.operator <;>
      simp [hf, hp, Field.operandFaults_eq_nil_iff]

/-- A filter is without faults exactly if the schema allows all of its conditions. -/
theorem faults_eq_nil_iff {s : Schema} {f : Filter} :
    s.faults (some f) = [] ↔ ∀ c ∈ f.leaves, s.Allows c := by
  rw [faults_some, listedFaults, List.flatMap_eq_nil_iff, ← f.conditionsAt_map_snd Fault.rootPath]
  simp only [conditionFaults_eq_nil_iff, List.mem_map, forall_exists_index, and_imp]
  exact ⟨fun h c e he same => same ▸ h e he, fun h e he => h e.2 e he rfl⟩

theorem faultOf?_eq_none {before : List String} {fields : List Field}
    (h : firstFault? before fields = none) :
    ∀ f ∈ fields, ∃ names, faultOf? names f = none := by
  induction fields generalizing before with
  | nil => simp
  | cons f rest ih =>
    unfold firstFault? at h
    split at h
    · simp at h
    · next none =>
      intro g hg
      rcases List.mem_cons.1 hg with rfl | hg
      · exact ⟨before, none⟩
      · exact ih h g hg

/-- A schema that has been checked has no field with a reserved name. -/
theorem isReserved_eq_false {fields : List Field} {s : Schema} (h : ofFields fields = .ok s) :
    ∀ f ∈ s.fields, isReserved f.name = false := by
  unfold ofFields at h
  split at h
  · simp at h
  · next none =>
    cases h
    intro f hf
    obtain ⟨names, hnames⟩ := faultOf?_eq_none none f hf
    unfold faultOf? at hnames
    grind

/-- It makes no difference whether the schema has the name of an entity. -/
theorem isReserved_eq_false_of_define {entity : Option String} {fields : List Field} {s : Schema}
    (h : define entity fields = .ok s) : ∀ f ∈ s.fields, isReserved f.name = false := by
  unfold define at h
  cases checked : ofFields fields with
  | error e =>
    rw [checked] at h
    cases h
  | ok unnamed =>
    rw [checked] at h
    cases h
    have unreserved := isReserved_eq_false checked
    exact unreserved

theorem Allows.isReserved_eq_false {s : Schema} {c : Condition} (h : s.Allows c)
    (unreserved : ∀ f ∈ s.fields, isReserved f.name = false) : isReserved c.field = false := by
  obtain ⟨f, hf, -⟩ := h
  rw [← name_of_field? hf]
  exact unreserved f (mem_fields_of_field? hf)

end Schema

end SchemaFilter
