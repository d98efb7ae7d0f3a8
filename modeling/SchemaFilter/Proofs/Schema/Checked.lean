import SchemaFilter.Proofs.Outcome
import SchemaFilter.Schema.Format

/-!
# Checked schemas

A schema is had from a list of fields, by giving it an entity name, from the text of a schema file or
from other data. On each of these ways its fields have been checked, so they pass the check again.
-/

namespace SchemaFilter

theorem exists_define_of_typedSchema {cs rest : List Char} {s : Schema}
    (h : typedSchema cs = .ok (s, rest)) :
    ∃ entity fields, Schema.define entity fields = .ok s := by
  rw [typedSchema] at h
  obtain ⟨⟨⟨entity, fields⟩, after⟩, -, checked⟩ := Outcome.bind_eq_ok_iff.1 h
  obtain ⟨t, defined, same⟩ := Outcome.bind_eq_ok_iff.1 checked
  cases same
  cases hdefine : (Schema.define entity fields).toOption with
  | none =>
    rw [hdefine] at defined
    cases defined
  | some t =>
    rw [hdefine] at defined
    cases defined
    exact ⟨entity, fields, Outcome.toOption_eq_some_iff.1 hdefine⟩

/-- The schema in a text has been checked, whatever the format. -/
theorem SchemaFormat.exists_define_of_read {format : SchemaFormat} {text : String} {s : Schema}
    (h : format.read text = .ok s) : ∃ entity fields, Schema.define entity fields = .ok s := by
  cases format with
  | json =>
    rw [read, Outcome.mapError_eq_ok_iff, Schema.ofJson, Json.typedWhole] at h
    obtain ⟨⟨t, rest⟩, ht, finished⟩ := Outcome.bind_eq_ok_iff.1 h
    dsimp only at finished
    split at finished
    · cases finished
      exact exists_define_of_typedSchema ht
    · cases finished
  | toml =>
    rw [read] at h
    split at h
    · next t ht =>
      cases h
      obtain ⟨data, -, viewed⟩ := Option.bind_eq_some_iff.1 ht
      rw [View.schema?] at viewed
      obtain ⟨⟨entity, fields⟩, -, defined⟩ := Option.bind_eq_some_iff.1 viewed
      exact ⟨entity, fields, Outcome.toOption_eq_some_iff.1 defined⟩
    · cases h

namespace Schema

theorem define_eq_ok_iff {entity : Option String} {fields : List Field} {s : Schema} :
    define entity fields = .ok s ↔ firstFault? [] fields = none ∧ s = ⟨entity, fields⟩ := by
  rw [define, ofFields]
  cases firstFault? [] fields with
  | some e => simp
  | none => simp [eq_comm]

/-- The schemas that can be had. -/
inductive Obtained : Schema → Prop where
  | ofFields {fields : List Field} {s : Schema} (h : Schema.ofFields fields = .ok s) : Obtained s
  | withEntity {s : Schema} (h : Obtained s) (entity : String) : Obtained (s.withEntity entity)
  | read {format : SchemaFormat} {text : String} {s : Schema} (h : format.read text = .ok s) :
    Obtained s
  | viewed {α : Type} {view : View α} {data : α} {s : Schema} (h : view.schema? data = some s) :
    Obtained s

/-- A schema that can be had is what its own fields make. -/
theorem Obtained.define_eq {s : Schema} (h : s.Obtained) : define s.entity s.fields = .ok s := by
  -- however a schema is had, its fields have passed the check
  have checked : firstFault? [] s.fields = none := by
    induction h with
    | @ofFields fields s h =>
      have defined : define none fields = .ok s := by
        rw [define, h]
        unfold Schema.ofFields at h
        split at h
        · cases h
        · cases h
          rfl
      obtain ⟨passed, rfl⟩ := define_eq_ok_iff.1 defined
      exact passed
    | withEntity _ entity ih => exact ih
    | read h =>
      obtain ⟨entity, fields, defined⟩ := SchemaFormat.exists_define_of_read h
      obtain ⟨passed, rfl⟩ := define_eq_ok_iff.1 defined
      exact passed
    | viewed h =>
      rw [View.schema?] at h
      obtain ⟨⟨entity, fields⟩, -, defined⟩ := Option.bind_eq_some_iff.1 h
      obtain ⟨passed, rfl⟩ := define_eq_ok_iff.1 (Outcome.toOption_eq_some_iff.1 defined)
      exact passed
  exact define_eq_ok_iff.2 ⟨checked, rfl⟩

end Schema

end SchemaFilter
