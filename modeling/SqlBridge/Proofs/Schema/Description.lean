import SqlBridge.Proofs.Schema.Declaration

/-!
Descriptions of mappers and their tables. Definitions are read with the description, one by one, or
while the columns are rendered; the definitions of a valid description give the same fields, and so
the same statement, in all these cases.
-/

namespace SqlBridge

namespace Validation

variable {α β : Type}

theorem map_eq_ok_iff {o : Checked α} {g : α → β} {b : β} :
    o.map g = .ok b ↔ ∃ a, o = .ok a ∧ g a = b := by
  cases o <;> simp [Except.map]

theorem each_eq_ok_iff {read : α → Checked β} {items : List α} {bs : List β} :
    each read items = .ok bs ↔ List.Forall₂ (fun a b => read a = .ok b) items bs := by
  induction items generalizing bs with
  | nil => cases bs <;> simp [each]
  | cons a rest ih =>
    simp only [each, map_eq_ok_iff, both_eq_ok_iff, ih, List.forall₂_cons_left_iff]
    constructor
    · rintro ⟨⟨b, more⟩, ⟨hb, hmore⟩, rfl⟩
      exact ⟨b, more, hb, hmore, rfl⟩
    · rintro ⟨b, more, hb, hmore, rfl⟩
      exact ⟨(b, more), ⟨hb, hmore⟩, rfl⟩

end Validation

namespace Schema

open Validation

variable {read : Value → Checked Field} {definitions : Fields Value} {fields : Fields Field}

theorem readEach_eq_ok_of_readAs (h : ReadAs read definitions fields) :
    readEach read definitions = .ok fields := by
  induction h with
  | nil => rfl
  | @cons declared field rest others hfield _ ih =>
    obtain ⟨name, v⟩ := declared
    obtain ⟨other, field⟩ := field
    obtain ⟨rfl, hread⟩ := hfield
    rw [readEach, hread, ih]
    rfl

/-- A valid definition is read the same by the reader that accepts falsy ones. -/
theorem readLoosely_of_read {v : Value} {field : Field} (h : Field.read v = .ok field) :
    readLoosely v = .ok field := by
  obtain ⟨definition, hv, -⟩ := bind_eq_ok_iff.mp h
  cases v with
  | object entries =>
    cases entries with
    | nil => exact h
    | cons entry rest => exact h
  | _ => cases hv

theorem ReadAs.loosely (h : ReadAs Field.read definitions fields) :
    ReadAs readLoosely definitions fields :=
  List.Forall₂.imp (fun _ _ hfield => ⟨hfield.1, readLoosely_of_read hfield.2⟩) h

/-- The table of a description: its name, the identifying name, and the definitions of its fields.
-/
structure Describes (description : Fields Value) (table id : String) (definitions : Fields Value) :
    Prop where
  tableGiven : description.get? "table" = some (.text table)
  tableNonempty : table ≠ ""
  idGiven : description.get? "idAttribute" = some (.text id)
  definitionsGiven : ∃ schema : Fields Value, description.get? "schema" = some (.object schema) ∧
    schema.get? "properties" = some (.object definitions)

theorem optional_of_get? {α : Type} {fields : Fields Value} {name : String} {v : Value}
    (h : fields.get? name = some v) (absent : α) (read : Value → Checked α) :
    Validation.optional fields name absent read = within (.name name) (read v) := by
  simp only [Validation.optional, h]

theorem optionalEither_of_get? {α : Type} {fields : Fields Value} {shown : String} {v : Value}
    (h : fields.get? shown = some v) (plain : String) (absent : α) (read : Value → Checked α) :
    optionalEither fields shown plain absent read = within (.name shown) (read v) := by
  rw [optionalEither, if_pos (by rw [Fields.contains, h]; rfl), optional_of_get? h]

/-- The fields of a valid schema are the results of reading its definitions. -/
theorem readAs_of_readSchema {schema : Fields Value}
    (hdefinitions : schema.get? "properties" = some (.object definitions))
    (h : Mapper.readSchema (.object schema) = .ok fields) :
    ReadAs Field.read definitions fields := by
  have hread : Mapper.readSchema (.object schema) =
      within (.name "properties") (each (fun declared =>
        within (.name declared.1) ((Field.read declared.2).map fun field => (declared.1, field)))
          definitions) := optional_of_get? hdefinitions _ _
  rw [hread, within_eq_ok_iff, each_eq_ok_iff] at h
  refine List.Forall₂.imp (fun declared field hfield => ?_) h
  obtain ⟨read, hread, rfl⟩ := map_eq_ok_iff.mp (within_eq_ok_iff.mp hfield)
  exact ⟨rfl, hread⟩

/-- A mapper read from a description has the table of the description. -/
theorem Describes.of_read {description : Fields Value} {table id : String} {m : Mapper}
    (h : Describes description table id definitions)
    (hread : Mapper.read (.object description) = .ok m) :
    m.tableName = table ∧ m.idAttribute = id ∧ ReadAs Field.read definitions m.properties := by
  obtain ⟨schema, hschema, hdefinitions⟩ := h.definitionsGiven
  obtain ⟨fields, hfields, hread⟩ := bind_eq_ok_iff.mp hread
  cases hfields
  obtain ⟨⟨name, idAttribute, tableGiven, properties⟩, hparts, hread⟩ := bind_eq_ok_iff.mp hread
  simp only [both_eq_ok_iff, optional_of_get? h.tableGiven, optionalEither_of_get? h.idGiven,
    optionalEither_of_get? hschema, within_eq_ok_iff] at hparts
  obtain ⟨-, hid, htable, hproperties⟩ := hparts
  cases hread
  cases hid
  cases htable
  refine ⟨?_, rfl, readAs_of_readSchema hdefinitions hproperties⟩
  have hnonempty : table.isEmpty = false := by simpa [String.isEmpty_iff] using h.tableNonempty
  simp [Mapper.tableName, hnonempty]

/-- A valid description has one provisioning statement, in every way of reading its definitions. -/
theorem Describes.exists_statement {description : Fields Value} {table id : String} {m : Mapper}
    (h : Describes description table id definitions)
    (hread : Mapper.read (.object description) = .ok m) :
    ∃ sql, m.createTable = .ok sql ∧ createTableOfValues id definitions table = .ok sql ∧
      readEach Field.read definitions = .ok m.properties ∧
      readEach readLoosely definitions = .ok m.properties ∧
      createTable id m.properties table = .ok sql := by
  obtain ⟨rfl, rfl, hfields⟩ := h.of_read hread
  have hsql := m.createTable_eq
  exact ⟨_, hsql, (hfields.loosely.createTableWith_eq _ _).trans hsql,
    readEach_eq_ok_of_readAs hfields, readEach_eq_ok_of_readAs hfields.loosely, hsql⟩

end Schema

end SqlBridge
