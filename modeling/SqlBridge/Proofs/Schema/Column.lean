import Mathlib.Tactic.ByContra
import Mathlib.Tactic.SplitIfs
import SqlBridge.Schema.Table

/-!
The columns of a provisioning statement. The statement contains their texts one after another. The
identifying column is the first one or missing: it is added if the declaration lacks it, kept if the
declaration begins with it, and omitted if it is declared after another column.
-/

namespace SqlBridge.Schema

/-- A column of a provisioning statement. -/
structure Column where
  name : String
  type : String
  isKey : Bool
  notNull : Bool
  unique : Bool
  default? : Option Value

namespace Column

def text (c : Column) : String :=
  c.name ++ " " ++ c.type
    ++ (if c.isKey then " PRIMARY KEY AUTOINCREMENT" else "")
    ++ (if c.notNull then " NOT NULL" else "")
    ++ (if c.unique then " UNIQUE" else "")
    ++ (match c.default? with
      | some v => " DEFAULT " ++ defaultLiteral v
      | none => "")

/-- The identifying column added to a declaration without one. -/
def ofKey (key : String) : Column := ⟨key, "INTEGER", true, false, false, none⟩

/-- The column of a declared field, under a given identifying name. -/
def ofField (key name : String) (field : Field) : Column :=
  ⟨name, columnType field.type, name = key, field.required || field.notNull, field.unique,
    field.default?⟩

theorem text_ofKey (key : String) : (ofKey key).text = idColumn key := by
  simp [text, ofKey, idColumn, String.append_assoc]

theorem text_ofField (key name : String) (field : Field) :
    (ofField key name field).text = column name field key := by
  simp only [text, ofField, column, decide_eq_true_eq]
  cases field.default? <;> rfl

end Column

/-- The columns of the declared fields except the identifying one. -/
def plainColumns (key : String) (properties : Fields Field) : List Column :=
  (properties.filter fun field => field.1 != key).map fun (name, field) =>
    .ofField key name field

/-- The columns of a declaration. -/
def columnsOf (key : String) (properties : Fields Field) : List Column :=
  if properties.contains key then
    match properties with
    | [] => []
    | (name, field) :: rest => .ofField key name field :: plainColumns key rest
  else .ofKey key :: plainColumns key properties

theorem declaredColumns_behind (key : String) (properties : Fields Field) :
    declaredColumns key .ok false properties =
      .ok ((plainColumns key properties).map Column.text) := by
  induction properties with
  | nil => rfl
  | cons field rest ih =>
    obtain ⟨name, field⟩ := field
    by_cases hname : name = key
    · simpa [declaredColumns, plainColumns, hname] using ih
    · have hkept : plainColumns key ((name, field) :: rest) =
          .ofField key name field :: plainColumns key rest := by
        simp [plainColumns, hname]
      rw [hkept, List.map_cons, Column.text_ofField]
      simp [declaredColumns, hname, ih]
      rfl

/-- The first declared column is always kept. -/
theorem declaredColumns_first (key name : String) (field : Field) (rest : Fields Field) :
    declaredColumns key .ok true ((name, field) :: rest) =
      .ok ((Column.ofField key name field :: plainColumns key rest).map Column.text) := by
  rw [List.map_cons, Column.text_ofField]
  simp only [declaredColumns, declaredColumns_behind, Bool.not_true, Bool.and_false,
    Bool.false_eq_true, if_false]
  rfl

/-- The provisioning statement consists of the texts of the columns. -/
theorem createTable_eq (idAttribute : String) (properties : Fields Field) (table : String) :
    createTable idAttribute properties table = .ok ("CREATE TABLE IF NOT EXISTS " ++ table ++ " ("
      ++ ", ".intercalate ((columnsOf (effectiveId idAttribute) properties).map Column.text)
      ++ ")") := by
  unfold createTable createTableWith columnsOf
  by_cases hdeclared : properties.contains (effectiveId idAttribute) = true
  · simp only [if_pos hdeclared]
    cases properties with
    | nil => cases hdeclared
    | cons first rest =>
      obtain ⟨name, field⟩ := first
      simp only [List.isEmpty_nil, declaredColumns_first]
      rfl
  · simp only [if_neg hdeclared, List.isEmpty_cons, declaredColumns_behind]
    rw [List.map_cons, Column.text_ofKey]
    rfl

namespace Mapper

/-- The identifying name of a mapper in its table. -/
def key (m : Mapper) : String := effectiveId m.idAttribute

def columns (m : Mapper) : List Column := columnsOf m.key m.properties

theorem createTable_eq (m : Mapper) :
    m.createTable = .ok ("CREATE TABLE IF NOT EXISTS " ++ m.tableName ++ " ("
      ++ ", ".intercalate (m.columns.map Column.text) ++ ")") :=
  Schema.createTable_eq m.idAttribute m.properties m.tableName

end Mapper

/-- The types whose values are stored as whole numbers. -/
def wholeTypes : List FieldType := [.named "number", .named "integer", .named "boolean"]

theorem columnType_eq (type : FieldType) :
    columnType type = if type ∈ wholeTypes then "INTEGER" else "TEXT" := by
  cases type with
  | named name =>
    simp only [columnType, FieldType.name?, wholeTypes, List.mem_cons, List.not_mem_nil,
      FieldType.named.injEq, or_false]
    split <;> simp_all
  | _ => rfl

theorem mem_plainColumns {key : String} {properties : Fields Field} {c : Column}
    (h : c ∈ plainColumns key properties) : c.name ≠ key ∧ c.isKey = false := by
  obtain ⟨⟨name, field⟩, hfield, rfl⟩ := List.mem_map.mp h
  have hname : name ≠ key := by simpa using (List.mem_filter.mp hfield).2
  exact ⟨hname, by simp [Column.ofField, hname]⟩

namespace Mapper

/-- Whether a mapper declares its identifying column after another one. -/
def DeclaresKeyLate (m : Mapper) : Prop :=
  m.properties.contains m.key = true ∧ m.properties.head?.map (·.1) ≠ some m.key

/-- Whether the first declared column of a mapper is the identifying one, with a type stored as
text. -/
def DeclaresKeyAsText (m : Mapper) : Prop :=
  ∃ field, m.properties.head? = some (m.key, field) ∧ field.type ∉ wholeTypes

/-- Unless it is declared after another column, the identifying column is the first one and the only
key. -/
theorem exists_columns_eq {m : Mapper} (h : ¬m.DeclaresKeyLate) :
    ∃ c rest, m.columns = c :: rest ∧ c.name = m.key ∧ c.isKey = true ∧
      (¬m.DeclaresKeyAsText → c.type = "INTEGER") ∧
      ∀ other ∈ rest, other.name ≠ m.key ∧ other.isKey = false := by
  unfold columns columnsOf
  by_cases hdeclared : m.properties.contains m.key = true
  · rw [if_pos hdeclared]
    cases hproperties : m.properties with
    | nil =>
      rw [hproperties] at hdeclared
      cases hdeclared
    | cons first rest =>
      obtain ⟨name, field⟩ := first
      have hname : name = m.key := by
        by_contra hother
        exact h ⟨hdeclared, by simpa [hproperties] using hother⟩
      refine ⟨_, _, rfl, hname, by simp [Column.ofField, hname], fun hwhole => ?_,
        fun other => mem_plainColumns⟩
      change columnType field.type = "INTEGER"
      rw [columnType_eq, if_pos]
      by_contra htype
      exact hwhole ⟨field, by rw [hproperties, hname]; rfl, htype⟩
  · rw [if_neg hdeclared]
    exact ⟨_, _, rfl, rfl, rfl, fun _ => rfl, fun other => mem_plainColumns⟩

/-- An identifying column declared after another one is omitted, and the table has no key. -/
theorem columns_of_declaresKeyLate {m : Mapper} (h : m.DeclaresKeyLate) :
    ∀ c ∈ m.columns, c.name ≠ m.key ∧ c.isKey = false := by
  obtain ⟨hdeclared, hfirst⟩ := h
  unfold columns columnsOf
  rw [if_pos hdeclared]
  cases hproperties : m.properties with
  | nil => simp
  | cons first rest =>
    obtain ⟨name, field⟩ := first
    have hname : name ≠ m.key := by simpa [hproperties] using hfirst
    intro c hc
    rcases List.mem_cons.mp hc with rfl | hc
    · exact ⟨hname, by simp [Column.ofField, hname]⟩
    · exact mem_plainColumns hc

end Mapper

end SqlBridge.Schema
