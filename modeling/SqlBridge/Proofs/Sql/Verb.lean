import SqlBridge.Proofs.Outcome
import SqlBridge.Proofs.Sql.Binding
import SqlBridge.Remote.Script
import SqlBridge.Schema.Table
import SqlBridge.Sql.Render

/-!
The beginnings of statements. A data statement begins with one of a few openings; the statements
that provision a table or list the tables begin with none of them. The provisioning statement of a
mapper can always be rendered.
-/

namespace SqlBridge

open Remote

namespace Sql

/-- The table of a statement. -/
def Statement.table : Statement → String
  | .select selection => selection.table
  | .insert table _ _ => table
  | .insertRow table _ _ => table
  | .update table _ _ => table
  | .delete table _ => table

/-- The openings of data statements: a read with the first of its columns, any other statement with
its verb. -/
def openings : List String :=
  ["SELECT *", "SELECT rowid", "SELECT count(", "SELECT sum(", "INSERT INTO ", "UPDATE ",
    "DELETE FROM "]

theorem opening_insertText {α : Type} (table : String) (columns : List String)
    (rows : List (List α)) :
    ∃ rest, (insertText table columns rows).text = "INSERT INTO " ++ rest := by
  unfold insertText
  by_cases hcolumns : columns.isEmpty = true
  · rw [if_pos hcolumns]
    exact ⟨_, String.append_assoc⟩
  · rw [if_neg hcolumns]
    refine ⟨identifier table ++ (columnList columns ++ (" VALUES " ++
      (Fragment.join ", " (rows.map group)).text)), ?_⟩
    simp only [Fragment.text_append, Fragment.text_ofText, String.append_assoc]

theorem Projection.opening_render {p : Projection} {text : String} (h : p.render = .ok text)
    (rest : String) :
    ∃ opening ∈ openings, ∃ more, "SELECT " ++ (text ++ rest) = opening ++ more := by
  cases p with
  | everything =>
    cases h
    exact ⟨"SELECT *", by decide, rest, by rw [← String.append_assoc]; rfl⟩
  | rowId =>
    cases h
    exact ⟨"SELECT rowid", by decide, rest, by rw [← String.append_assoc]; rfl⟩
  | count =>
    cases h
    refine ⟨"SELECT count(", by decide, "*) AS count" ++ rest, ?_⟩
    rw [← String.append_assoc, ← String.append_assoc]
    rfl
  | sum column =>
    obtain ⟨name, -, heq⟩ := Outcome.bind_eq_ok_iff.mp h
    cases heq
    refine ⟨"SELECT sum(", by decide, name ++ (") AS sum" ++ rest), ?_⟩
    simp only [String.append_assoc]
    rw [← String.append_assoc]
    rfl

theorem Statement.opening_draft {s : Statement} {f : Fragment Slot} (h : s.draft = .ok f) :
    ∃ opening ∈ openings, ∃ rest, f.text = opening ++ rest := by
  cases s with
  | select selection =>
    simp only [Statement.draft, Selection.render, Outcome.bind_eq_ok_iff] at h
    obtain ⟨⟨fragment, binds⟩, hrender, hf⟩ := h
    obtain ⟨projection, hprojection, ⟨predicates, binds'⟩, -, order, -, ⟨page, binds''⟩, -, heq⟩ :=
      hrender
    cases heq
    cases hf
    simp only [Fragment.text_append, Fragment.text_ofText, String.append_assoc]
    exact Projection.opening_render hprojection _
  | insert table columns rows =>
    obtain ⟨-, -, heq⟩ := Outcome.bind_eq_ok_iff.mp h
    cases heq
    exact ⟨"INSERT INTO ", by decide, opening_insertText table columns _⟩
  | insertRow table columns row =>
    obtain ⟨-, -, heq⟩ := Outcome.bind_eq_ok_iff.mp h
    cases heq
    exact ⟨"INSERT INTO ", by decide, opening_insertText table columns _⟩
  | update table assignments scope =>
    simp only [Statement.draft, Outcome.bind_eq_ok_iff] at h
    obtain ⟨-, -, fragment, -, heq⟩ := h
    cases heq
    refine ⟨"UPDATE ", by decide, ?_⟩
    simp only [Fragment.text_append, Fragment.text_ofText, String.append_assoc]
    exact ⟨_, rfl⟩
  | delete table scope =>
    simp only [Statement.draft, Outcome.bind_eq_ok_iff] at h
    obtain ⟨fragment, -, heq⟩ := h
    cases heq
    refine ⟨"DELETE FROM ", by decide, ?_⟩
    simp only [Fragment.text_append, Fragment.text_ofText, String.append_assoc]
    exact ⟨_, rfl⟩

theorem Statement.opening_render {s : Statement} {f : Fragment Value} (h : s.render = .ok f) :
    ∃ opening ∈ openings, ∃ rest, f.text = opening ++ rest := by
  obtain ⟨draft, hdraft, rfl⟩ := Statement.exists_draft_of_render h
  exact Statement.opening_draft hdraft

theorem isProvisioning_opening {opening : String} (h : opening ∈ openings) (rest : String) :
    isProvisioning (opening ++ rest) = false := by
  simp only [openings, List.mem_cons, List.not_mem_nil, or_false] at h
  unfold isProvisioning
  rw [String.toList_append]
  rcases h with rfl | rfl | rfl | rfl | rfl | rfl | rfl <;> rfl

/-- The catalog statement begins with no opening. -/
theorem opening_ne_catalog {opening : String} (h : opening ∈ openings) (rest : String) :
    opening ++ rest ≠ catalogSql := by
  intro heq
  have hchars := congrArg (fun s => "SELECT n".toList.isPrefixOf s.toList) heq
  simp only [String.toList_append] at hchars
  simp only [openings, List.mem_cons, List.not_mem_nil, or_false] at h
  rcases h with rfl | rfl | rfl | rfl | rfl | rfl | rfl <;> cases hchars

/-- A data statement is not a provisioning statement. -/
theorem Statement.isProvisioning_render {s : Statement} {f : Fragment Value}
    (h : s.render = .ok f) :
    isProvisioning f.text = false := by
  obtain ⟨opening, hopening, rest, htext⟩ := Statement.opening_render h
  rw [htext]
  exact isProvisioning_opening hopening rest

/-- A data statement is not the catalog statement. -/
theorem Statement.render_ne_catalog {s : Statement} {f : Fragment Value} (h : s.render = .ok f) :
    f.text ≠ catalogSql := by
  obtain ⟨opening, hopening, rest, htext⟩ := Statement.opening_render h
  rw [htext]
  exact opening_ne_catalog hopening rest

end Sql

namespace Schema

theorem exists_declaredColumns (idAttribute : String) (first : Bool) (properties : Fields Field) :
    ∃ columns, declaredColumns idAttribute .ok first properties = .ok columns := by
  induction properties generalizing first with
  | nil => exact ⟨[], rfl⟩
  | cons property rest ih =>
    obtain ⟨name, field⟩ := property
    simp only [declaredColumns]
    by_cases hskipped : (name = idAttribute && !first) = true
    · rw [if_pos hskipped]
      exact ih first
    · rw [if_neg hskipped]
      obtain ⟨columns, hcolumns⟩ := ih false
      rw [hcolumns]
      exact ⟨_, rfl⟩

/-- A provisioning statement is recognised by its beginning, for any declarations. -/
theorem isProvisioning_createTableWith {α : Type} {read : α → Validation.Checked Field}
    {idAttribute table sql : String} {properties : Fields α}
    (h : createTableWith read idAttribute properties table = .ok sql) :
    isProvisioning sql = true := by
  unfold createTableWith at h
  cases hcolumns : declaredColumns (effectiveId idAttribute) read
      (if properties.contains (effectiveId idAttribute) then []
        else [idColumn (effectiveId idAttribute)]).isEmpty properties with
  | error issues =>
    simp only [hcolumns] at h
    cases h
  | ok columns =>
    simp only [hcolumns] at h
    cases h
    unfold isProvisioning
    simp only [String.toList_append]
    rfl

/-- The provisioning statement of a mapper can always be rendered. -/
theorem Mapper.exists_createTable (m : Mapper) :
    ∃ sql, m.createTable = .ok sql ∧ isProvisioning sql = true := by
  obtain ⟨columns, hcolumns⟩ := exists_declaredColumns (effectiveId m.idAttribute)
    (if m.properties.contains (effectiveId m.idAttribute) then []
      else [idColumn (effectiveId m.idAttribute)]).isEmpty m.properties
  have hsql : ∃ sql, m.createTable = .ok sql := by
    unfold Mapper.createTable Schema.createTable createTableWith
    simp only [hcolumns]
    exact ⟨_, rfl⟩
  obtain ⟨sql, hsql⟩ := hsql
  exact ⟨sql, hsql, isProvisioning_createTableWith hsql⟩

theorem Mapper.isProvisioning_createTable {m : Mapper} {sql : String}
    (h : m.createTable = .ok sql) : isProvisioning sql = true :=
  isProvisioning_createTableWith h

end Schema

end SqlBridge
