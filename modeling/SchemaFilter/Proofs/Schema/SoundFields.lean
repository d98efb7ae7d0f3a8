import Mathlib.Data.List.DropRight
import Mathlib.Data.List.Nodup
import SchemaFilter.Proofs.Schema.Checked

/-!
# Sound lists of fields

The check of a list of fields goes through the list once and compares each field with those before
it. It passes exactly the sound lists, and otherwise it blames the first field that cannot follow the
fields before it. The names of a schema are distinct therefore, so that looking a name up finds the
one field that has it.
-/

namespace SchemaFilter

theorem Text.trim_eq_nil {cs : List Char} : trim cs = [] ↔ ∀ c ∈ cs, isBlank c = true := by
  have start : (∀ c ∈ trimStart cs, isBlank c = true) ↔ trimStart cs = [] := by
    rw [← List.dropWhile_eq_nil_iff, trimStart, List.dropWhile_idempotent]
  simp only [trim, trimEnd, List.reverse_eq_nil_iff, List.dropWhile_eq_nil_iff, List.mem_reverse]
  rw [start, trimStart, List.dropWhile_eq_nil_iff]

theorem Text.isBlankText_iff {s : String} : isBlankText s = true ↔ trim s.toList = [] := by
  simp [isBlankText, trim_eq_nil]

theorem isReserved_iff {name : String} :
    isReserved name = true ↔ name.toList.head? = some '$' := by
  rw [isReserved]
  split
  · next rest h => simp [h]
  · next h =>
    cases hname : name.toList with
    | nil => simp
    | cons c cs =>
      have : c ≠ '$' := fun hc => h cs (by rw [hname, hc])
      simp [this]

/-- What is asked of a field by itself. -/
structure Field.IsSound (f : Field) : Prop where
  named : Text.trim f.name.toList ≠ []
  unreserved : f.name.toList.head? ≠ some '$'
  plain : f.enumValues ≠ none → f.type = .enum

namespace Schema

/-- What is asked of a list of fields. -/
structure Sound (fields : List Field) : Prop where
  each : ∀ f ∈ fields, f.IsSound
  distinct : (fields.map (·.name)).Nodup

/-- Why a field cannot follow others. Of several reasons the first one counts. -/
inductive Offends (before : List Field) (f : Field) : SchemaError → Prop where
  | blank (h : Text.trim f.name.toList = []) : Offends before f .emptyFieldName
  | reserved (named : Text.trim f.name.toList ≠ []) (h : f.name.toList.head? = some '$') :
    Offends before f (.reservedFieldName f.name)
  | duplicate (named : Text.trim f.name.toList ≠ []) (unreserved : f.name.toList.head? ≠ some '$')
    (h : ∃ g ∈ before, g.name = f.name) : Offends before f (.duplicateField f.name)
  | enumValues (named : Text.trim f.name.toList ≠ []) (unreserved : f.name.toList.head? ≠ some '$')
    (new : ∀ g ∈ before, g.name ≠ f.name) (h : f.enumValues ≠ none) (type : f.type ≠ .enum) :
    Offends before f (.unexpectedEnumValues f.name f.type)

variable {before fields : List Field} {f : Field} {e : SchemaError}

/-! ## One field -/

theorem faultOf?_eq_some_iff :
    faultOf? (before.map (·.name)) f = some e ↔ Offends before f e := by
  have known : (before.map (·.name)).contains f.name = true ↔ ∃ g ∈ before, g.name = f.name := by
    simp
  have misplaced : (f.enumValues.isSome && f.type != .enum) = true ↔
      f.enumValues ≠ none ∧ f.type ≠ .enum := by
    simp [Option.isSome_iff_ne_none]
  simp only [faultOf?, Text.isBlankText_iff, isReserved_iff, known, misplaced]
  constructor
  · intro h
    split at h
    · next named => cases h; exact .blank named
    · next named =>
      split at h
      · next reserved => cases h; exact .reserved named reserved
      · next unreserved =>
        split at h
        · next old => cases h; exact .duplicate named unreserved old
        · next new =>
          split at h
          · next enum =>
            cases h
            exact .enumValues named unreserved (fun g hg same => new ⟨g, hg, same⟩) enum.1 enum.2
          · cases h
  · rintro (named | ⟨named, reserved⟩ | ⟨named, unreserved, old⟩ |
      ⟨named, unreserved, new, listed, type⟩)
    · rw [if_pos named]
    · rw [if_neg named, if_pos reserved]
    · rw [if_neg named, if_neg unreserved, if_pos old]
    · rw [if_neg named, if_neg unreserved, if_neg (by rintro ⟨g, hg, same⟩; exact new g hg same),
        if_pos ⟨listed, type⟩]

/-- A field passes its check if it is sound and has a name of its own. -/
theorem faultOf?_eq_none_iff : faultOf? (before.map (·.name)) f = none ↔
    f.IsSound ∧ ∀ g ∈ before, g.name ≠ f.name := by
  rw [Option.eq_none_iff_forall_ne_some]
  simp only [ne_eq, faultOf?_eq_some_iff]
  constructor
  · intro h
    have named : Text.trim f.name.toList ≠ [] := fun blank => h _ (.blank blank)
    have unreserved : f.name.toList.head? ≠ some '$' := fun reserved =>
      h _ (.reserved named reserved)
    have new : ∀ g ∈ before, g.name ≠ f.name := fun g hg same =>
      h _ (.duplicate named unreserved ⟨g, hg, same⟩)
    have plain : f.enumValues ≠ none → f.type = .enum := fun listed =>
      Decidable.byContradiction fun type => h _ (.enumValues named unreserved new listed type)
    exact ⟨⟨named, unreserved, plain⟩, new⟩
  · rintro ⟨⟨named, unreserved, plain⟩, new⟩ e
      (blank | ⟨-, reserved⟩ | ⟨-, -, g, hg, same⟩ | ⟨-, -, -, listed, type⟩)
    · exact named blank
    · exact unreserved reserved
    · exact new g hg same
    · exact type (plain listed)

/-! ## Lists of fields -/

theorem sound_nil : Sound [] :=
  ⟨by simp, List.nodup_nil⟩

theorem Sound.of_append (h : Sound (before ++ fields)) : Sound before :=
  ⟨fun f hf => h.each f (List.mem_append_left _ hf),
    (List.nodup_append.1 (List.map_append ▸ h.distinct)).1⟩

/-- A sound list may go on with the fields that pass their check behind it. -/
theorem sound_append_singleton_iff : Sound (before ++ [f]) ↔
    Sound before ∧ faultOf? (before.map (·.name)) f = none := by
  rw [faultOf?_eq_none_iff]
  constructor
  · intro h
    have distinct := h.distinct
    rw [List.map_append, List.nodup_append] at distinct
    exact ⟨h.of_append, h.each f (by simp), fun g hg =>
      distinct.2.2 g.name (List.mem_map_of_mem hg) f.name (by simp)⟩
  · rintro ⟨front, sound, new⟩
    refine ⟨?_, ?_⟩
    · intro g hg
      rcases List.mem_append.1 hg with hg | hg
      · exact front.each g hg
      · rwa [List.mem_singleton.1 hg]
    · rw [List.map_append, List.nodup_append]
      refine ⟨front.distinct, by simp, ?_⟩
      intro name hname last hlast
      obtain ⟨g, hg, rfl⟩ := List.mem_map.1 hname
      rw [List.map_singleton, List.mem_singleton] at hlast
      exact hlast ▸ new g hg

/-- Behind a sound list the check passes what keeps the list sound. -/
theorem firstFault?_eq_none_iff (sound : Sound before) :
    firstFault? (before.map (·.name)) fields = none ↔ Sound (before ++ fields) := by
  induction fields generalizing before with
  | nil => simpa [firstFault?] using sound
  | cons f fs ih =>
    rw [firstFault?]
    cases hf : faultOf? (before.map (·.name)) f with
    | some e =>
      refine iff_of_false (by simp) fun whole => ?_
      rw [List.append_cons] at whole
      have passed := (sound_append_singleton_iff.1 whole.of_append).2
      rw [hf] at passed
      cases passed
    | none =>
      have longer := ih (sound_append_singleton_iff.2 ⟨sound, hf⟩)
      rw [List.append_cons before f fs, ← longer, List.map_append]
      rfl

/-- Behind a sound list the check reports the first field that cannot follow those before it. -/
theorem firstFault?_eq_some_iff (sound : Sound before) :
    firstFault? (before.map (·.name)) fields = some e ↔
      ∃ passed f after, fields = passed ++ f :: after ∧ Sound (before ++ passed) ∧
        Offends (before ++ passed) f e := by
  induction fields generalizing before with
  | nil => simp [firstFault?]
  | cons f fs ih =>
    rw [firstFault?]
    cases hf : faultOf? (before.map (·.name)) f with
    | some d =>
      constructor
      · intro h
        cases h
        exact ⟨[], f, fs, rfl, by rwa [List.append_nil],
          by rw [List.append_nil]; exact faultOf?_eq_some_iff.1 hf⟩
      -- no field that is passed has the fault of the first one
      · rintro ⟨passed, g, after, split, front, offends⟩
        cases passed with
        | nil =>
          cases split
          rw [List.append_nil] at offends
          rw [← hf, faultOf?_eq_some_iff.2 offends]
        | cons h hs =>
          cases split
          rw [List.append_cons] at front
          have passed := (sound_append_singleton_iff.1 front.of_append).2
          rw [hf] at passed
          cases passed
    | none =>
      -- the first field joins those before it, and the rest is split as the whole is behind it
      have longer := ih (sound_append_singleton_iff.2 ⟨sound, hf⟩)
      rw [List.map_append, List.map_singleton] at longer
      refine longer.trans ⟨?_, ?_⟩
      · rintro ⟨passed, g, after, rfl, front, offends⟩
        rw [List.append_assoc] at front offends
        exact ⟨f :: passed, g, after, rfl, front, offends⟩
      · rintro ⟨passed, g, after, split, front, offends⟩
        cases passed with
        | nil =>
          cases split
          rw [List.append_nil, ← faultOf?_eq_some_iff, hf] at offends
          cases offends
        | cons h hs =>
          cases split
          rw [List.append_cons] at front offends
          exact ⟨hs, g, after, rfl, front, offends⟩

/-! ## Schemas -/

/-- The fields of a schema are sound, however it was had. -/
theorem Obtained.sound {s : Schema} (h : s.Obtained) : Sound s.fields :=
  (firstFault?_eq_none_iff sound_nil).1 (define_eq_ok_iff.1 h.define_eq).1

/-- Where names are distinct, the name of a field leads to the field. -/
theorem field?_of_distinct {s : Schema} (distinct : (s.fields.map (·.name)).Nodup)
    (hf : f ∈ s.fields) : s.field? f.name = some f := by
  cases found : s.field? f.name with
  | none => exact absurd rfl (field?_eq_none.1 found f hf)
  | some g =>
    have same := List.inj_on_of_nodup_map distinct (mem_fields_of_field? found) hf
      (name_of_field? found)
    rw [same]

/-- A list of fields makes a schema exactly if it is sound. Otherwise the fault of the first field
that cannot follow the ones before it is reported. In every schema, a name leads to the field that
has it, and a name that no field has leads nowhere. -/
theorem ofFields_sound_and_field?_exact :
    (∀ fields s, ofFields fields = .ok s ↔ Sound fields ∧ s = ⟨none, fields⟩) ∧
    (∀ fields e, ofFields fields = .error e ↔
      ∃ before f after, fields = before ++ f :: after ∧ Sound before ∧ Offends before f e) ∧
    ∀ s : Schema, s.Obtained → (∀ f ∈ s.fields, s.field? f.name = some f) ∧
      ∀ name, (∀ f ∈ s.fields, f.name ≠ name) → s.field? name = none := by
  refine ⟨fun fields s => ?_, fun fields e => ?_, fun s obtained => ⟨fun f hf => ?_, ?_⟩⟩
  · rw [← List.nil_append fields, ← firstFault?_eq_none_iff sound_nil, List.nil_append, ofFields]
    cases h : firstFault? [] fields <;> simp [h, eq_comm]
  · have first : firstFault? [] fields = some e ↔ ∃ before f after,
        fields = before ++ f :: after ∧ Sound before ∧ Offends before f e :=
      firstFault?_eq_some_iff sound_nil
    rw [← first, ofFields]
    cases firstFault? [] fields <;> simp
  · exact field?_of_distinct obtained.sound.distinct hf
  · exact fun name other => field?_eq_none.2 other

/-- Two fields of an entity lead to themselves. A third one that has the name of the first is
reported as a duplicate, although it lists values too. -/
theorem orders_fields_exact :
    let age : Field := { name := "age", type := .number }
    let status : Field :=
      { name := "status", type := .enum, filterable := false, enumValues := some ["open"] }
    let again : Field := { name := "age", type := .string, enumValues := some [] }
    let s : Schema := ⟨some "orders", [age, status]⟩
    s.Obtained ∧ s.field? "status" = some status ∧ s.field? "Age" = none ∧
      ofFields [age, status] = .ok ⟨none, [age, status]⟩ ∧
      ofFields [age, status, again] = .error (.duplicateField "age") := by
  intro age status again s
  have checked : ofFields [age, status] = .ok ⟨none, [age, status]⟩ := by decide
  have obtained : s.Obtained := (Obtained.ofFields checked).withEntity "orders"
  obtain ⟨accepted, rejected, found⟩ := ofFields_sound_and_field?_exact
  refine ⟨obtained, (found s obtained).1 status (by simp [s]), ?_, ?_, ?_⟩
  · exact (found s obtained).2 "Age" (by decide)
  · exact (accepted _ _).2 ⟨obtained.sound, rfl⟩
  · refine (rejected _ _).2 ⟨[age, status], again, [], rfl, obtained.sound, ?_⟩
    exact .duplicate (by decide) (by decide) ⟨age, by simp, rfl⟩

end Schema

end SchemaFilter
