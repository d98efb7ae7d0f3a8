import SchemaFilter.Proofs.Json.ReadBack
import SchemaFilter.Proofs.Schema.Checked

/-!
# Printed schemas

A schema that has been printed as JSON is read back as the same schema: an absent entity name or list
stays absent, and an empty one stays empty. What is read has its fields checked once more, which the
fields of a schema pass.
-/

namespace SchemaFilter

open Json

/-! ## Fields -/

namespace FieldDraft

variable (d : FieldDraft)

theorem reads_name (name : String) :
    Reads (slots[0].read d) (.string name) { d with name := some name } :=
  (reads_text name).map fun name => ({ d with name := some name } : FieldDraft)

theorem reads_type (type : FieldType) :
    Reads (slots[1].read d) (.string type.name) { d with type := some type } :=
  (reads_constant (FieldType.ofName?_name type)).map
    fun type => ({ d with type := some type } : FieldDraft)

theorem reads_filterable (flag : Bool) :
    Reads (slots[2].read d) (.bool flag) { d with filterable := some flag } :=
  (reads_flag flag).map fun flag => ({ d with filterable := some flag } : FieldDraft)

theorem reads_allowedOperators (ops : List Operator) :
    Reads (slots[3].read d) (.texts (ops.map (·.name))) { d with allowedOperators := some ops } := by
  have listed : Reads (typedList (typedConstant Operator.ofName?)) (.texts (ops.map (·.name)))
      ops := by
    rw [Layout.texts, List.map_map]
    exact reads_list fun op _ => reads_constant (Operator.ofName?_name op)
  exact listed.option.map fun ops => ({ d with allowedOperators := ops } : FieldDraft)

theorem reads_enumValues (values : List String) :
    Reads (slots[4].read d) (.texts values) { d with enumValues := some values } :=
  (reads_list fun value _ => reads_text value).option.map
    fun values => ({ d with enumValues := values } : FieldDraft)

end FieldDraft

/-- The draft of a field with all of its components. -/
def Field.draft (f : Field) : FieldDraft :=
  ⟨some f.name, some f.type, some f.filterable, f.allowedOperators, f.enumValues⟩

theorem Field.reads (f : Field) : Reads typedField f.layout f := by
  have layout_eq : f.layout = .object (("name", .string f.name) :: ("type", .string f.type.name) ::
      ("filterable", .bool f.filterable) ::
        (Layout.optional "allowed_operators" (fun ops => .texts (ops.map (·.name)))
            f.allowedOperators ++
          (Layout.optional "enum_values" Layout.texts f.enumValues ++ []))) := by
    simp [layout]
  rw [layout_eq]
  refine (Fills.reads (?_ : Fills FieldDraft.slots [] {} _ f.draft)).checked
    FieldDraft.finish? rfl
  refine .cons FieldDraft.slots[0] rfl (by decide) (FieldDraft.reads_name _ f.name) ?_
  refine .cons FieldDraft.slots[1] rfl (by decide) (FieldDraft.reads_type _ f.type) ?_
  refine .cons FieldDraft.slots[2] rfl (by decide) (FieldDraft.reads_filterable _ f.filterable) ?_
  -- either list may be left out, and then the draft stays as it is
  apply Fills.optional (fun ops => { f.draft with allowedOperators := ops, enumValues := none })
    FieldDraft.slots[3]
  case found | absent => rfl
  case unseen => decide
  case present => exact fun ops _ => FieldDraft.reads_allowedOperators _ ops
  apply Fills.optional (fun values => { f.draft with enumValues := values }) FieldDraft.slots[4]
  case found | absent => rfl
  case unseen => decide
  case present => exact fun values _ => FieldDraft.reads_enumValues _ values
  exact .nil _ _

/-! ## Schemas -/

theorem Schema.Obtained.reads {s : Schema} (h : s.Obtained) : Reads typedSchema s.layout s := by
  have readEntity (entity : String) :
      Reads (Schema.slots[0].read (none, [])) (.string entity) (some entity, []) :=
    (reads_text entity).option.map fun entity => (entity, [])
  have readFields : Reads (Schema.slots[1].read (s.entity, []))
      (.array (s.fields.map Field.layout)) (s.entity, s.fields) :=
    (Json.reads_list fun f _ => f.reads).map fun fields => (s.entity, fields)
  have fills : Fills Schema.slots [] (none, []) (Layout.optional "entity" Layout.string s.entity ++
      [("fields", .array (s.fields.map Field.layout))]) (s.entity, s.fields) :=
    .optional (fun entity => (entity, [])) Schema.slots[0] rfl (by decide) rfl
      (fun entity _ => readEntity entity)
      (.cons Schema.slots[1] rfl (by decide) readFields (.nil _ _))
  refine fills.reads.checked (fun made => (Schema.define made.1 made.2).toOption) ?_
  rw [h.define_eq]
  rfl

/-- A schema is read back from what it is printed as, compact or pretty, however it was had. Its fields
are in the same order and nothing about them has changed, so it accepts the same filters. -/
theorem Schema.read_render_layout {s : Schema} (h : s.Obtained) (isPretty : Bool) :
    SchemaFormat.read .json (s.layout.render isPretty) = .ok s := by
  rw [SchemaFormat.read, Schema.ofJson, h.reads.typedWhole_eq (s.layout.spells_render isPretty)]
  rfl

/-- Parts that are empty, and characters that have to be escaped. -/
theorem Schema.read_render_layout_of_empty_parts :
    let fields : List Field :=
      [⟨"say \"no\"\\", .enum, false, some [], some []⟩,
        ⟨"tab\tand\x01", .enum, true, some [.isIn, .eq, .isIn], some ["", "é\n"]⟩]
    let s := (Schema.mk none fields).withEntity ""
    s.Obtained ∧ SchemaFormat.read .json (s.layout.render true) = .ok s ∧
      SchemaFormat.read .json (s.layout.render false) = .ok s := by
  intro fields s
  have checked : Schema.ofFields fields = .ok ⟨none, fields⟩ := rfl
  have obtained : s.Obtained := (Obtained.ofFields checked).withEntity ""
  exact ⟨obtained, read_render_layout obtained true, read_render_layout obtained false⟩

end SchemaFilter
