import Mathlib.Data.List.Nodup
import SqlBridge.Proofs.Fields
import SqlBridge.Proofs.Remote.Catalog
import SqlBridge.Proofs.Schema.Column

/-!
The columns of a declaration. Every declared field except the identifying one has exactly one
column, in the order of the declaration, and the constraints after the type of a column in its text
are those set by its definition.
-/

namespace SqlBridge

namespace Validation

variable {α β : Type}

theorem bind_eq_ok_iff {o : Checked α} {k : α → Checked β} {b : β} :
    (o >>= k) = .ok b ↔ ∃ a, o = .ok a ∧ k a = .ok b := by
  cases o with
  | ok a =>
    change k a = .ok b ↔ _
    simp
  | error issues =>
    change Except.error issues = .ok b ↔ _
    simp

theorem both_eq_ok_iff {a : Checked α} {b : Checked β} {pair : α × β} :
    both a b = .ok pair ↔ a = .ok pair.1 ∧ b = .ok pair.2 := by
  cases a <;> cases b <;> simp [both, Prod.ext_iff]

/-- Whether a definition sets a flag. -/
def Sets (definition : Fields Value) (flag : String) : Prop :=
  ∃ v, definition.get? flag = some v ∧ truth v = .ok true

/-- The effective name of a flag with a public name and a plain one. -/
def eitherName (definition : Fields Value) (shown plain : String) : String :=
  if definition.contains shown then shown else plain

/-- A valid flag is on exactly when the definition sets it; a missing one is off. -/
theorem sets_of_optional {definition : Fields Value} {flag : String} {on : Bool}
    (h : optional definition flag false truth = .ok on) : on = true ↔ Sets definition flag := by
  unfold optional at h
  cases hflag : definition.get? flag with
  | none =>
    rw [hflag] at h
    cases h
    simp [Sets, hflag]
  | some v =>
    rw [hflag] at h
    have htruth : truth v = .ok on := within_eq_ok_iff.mp h
    simp [Sets, hflag, htruth]

theorem sets_of_optionalEither {definition : Fields Value} {shown plain : String} {on : Bool}
    (h : optionalEither definition shown plain false truth = .ok on) :
    on = true ↔ Sets definition (eitherName definition shown plain) := by
  unfold optionalEither at h
  unfold eitherName
  split at h
  · rw [if_pos ‹_›]
    exact sets_of_optional h
  · rw [if_neg ‹_›]
    exact sets_of_optional h

end Validation

namespace Schema

open Validation

/-- The entries of a definition; a falsy definition has none. -/
def definitionOf : Value → Fields Value
  | .object fields => fields
  | _ => []

/-- Whether a definition excludes null: by requiring the field, or by its flag under either name. -/
def RulesOutNull (definition : Fields Value) : Prop :=
  Sets definition "required" ∨ Sets definition (eitherName definition "notNull" "not_null")

/-- Whether a field has the constraints of a definition. -/
structure Field.Mirrors (definition : Fields Value) (field : Field) : Prop where
  notNull : (field.required || field.notNull) = true ↔ RulesOutNull definition
  unique : field.unique = true ↔ Sets definition "unique"
  default : field.default? = definition.get? "default"

theorem Field.mirrors_of_read {definition : Fields Value} {field : Field}
    (h : Field.read (.object definition) = .ok field) : field.Mirrors definition := by
  obtain ⟨fields, hfields, h⟩ := bind_eq_ok_iff.mp h
  cases hfields
  obtain ⟨⟨type, required, notNull, unique⟩, hparts, h⟩ := bind_eq_ok_iff.mp h
  simp only [both_eq_ok_iff] at hparts
  obtain ⟨-, hrequired, hnotNull, hunique⟩ := hparts
  cases h
  refine ⟨?_, sets_of_optional hunique, rfl⟩
  rw [Bool.or_eq_true, sets_of_optional hrequired, sets_of_optionalEither hnotNull]
  rfl

/-- A falsy definition is read as one without entries. -/
theorem mirrors_of_readLoosely {v : Value} {field : Field} (h : readLoosely v = .ok field) :
    field.Mirrors (definitionOf v) := by
  unfold readLoosely at h
  cases hvoid : v.truthy with
  | true =>
    rw [hvoid, if_pos rfl] at h
    cases v with
    | object fields => exact Field.mirrors_of_read h
    | _ => cases h
  | false =>
    rw [hvoid, if_neg (by decide)] at h
    have hnone : definitionOf v = [] := by
      cases v with
      | object fields => simpa [definitionOf, Value.truthy] using hvoid
      | _ => rfl
    rw [hnone]
    exact Field.mirrors_of_read h

/-- The constraints of a column, in the order of its text. -/
structure Constraints where
  isKey : Bool
  notNull : Bool
  unique : Bool
  default? : Option String
deriving DecidableEq

namespace Constraints

def text (c : Constraints) : String :=
  (if c.isKey then " PRIMARY KEY AUTOINCREMENT" else "")
    ++ (if c.notNull then " NOT NULL" else "")
    ++ (if c.unique then " UNIQUE" else "")
    ++ (match c.default? with
      | some literal => " DEFAULT " ++ literal
      | none => "")

/-- Whether characters begin with a word, and the characters after it. -/
def past (word : String) (cs : List Char) : Bool × List Char :=
  if word.toList.isPrefixOf cs then (true, cs.drop word.toList.length) else (false, cs)

/-- Reads the constraints at the end of a column. A default extends to the end of the text. -/
def read (cs : List Char) : Constraints :=
  let (isKey, cs) := past " PRIMARY KEY AUTOINCREMENT" cs
  let (notNull, cs) := past " NOT NULL" cs
  let (unique, cs) := past " UNIQUE" cs
  let (hasDefault, cs) := past " DEFAULT " cs
  ⟨isKey, notNull, unique, if hasDefault then some (String.ofList cs) else none⟩

/-- The constraints are read back from their text, for any default. -/
@[simp] theorem read_text (c : Constraints) : read c.text.toList = c := by
  obtain ⟨isKey, notNull, unique, default?⟩ := c
  cases isKey <;> cases notNull <;> cases unique <;> cases default? <;>
    simp [text, read, past]

end Constraints

namespace Column

def constraints (c : Column) : Constraints :=
  ⟨c.isKey, c.notNull, c.unique, c.default?.map defaultLiteral⟩

/-- The text of a column consists of its name, its type and its constraints. -/
theorem text_eq (c : Column) : c.text = c.name ++ " " ++ c.type ++ c.constraints.text := by
  unfold text constraints Constraints.text
  cases c.default? <;> simp only [Option.map, String.append_assoc]

end Column

theorem columnType_whole_or_text (type : FieldType) :
    columnType type = "INTEGER" ∨ columnType type = "TEXT" := by
  rw [columnType_eq]
  split <;> simp

/-- Whether a column has a storage class and the constraints of a definition. -/
structure Column.Keeps (key : String) (definition : Fields Value) (c : Column) : Prop where
  type : c.type = "INTEGER" ∨ c.type = "TEXT"
  isKey : c.isKey = true ↔ c.name = key
  notNull : c.notNull = true ↔ RulesOutNull definition
  unique : c.unique = true ↔ Sets definition "unique"
  default : c.default? = definition.get? "default"

theorem Field.Mirrors.keeps {key name : String} {definition : Fields Value} {field : Field}
    (h : field.Mirrors definition) : (Column.ofField key name field).Keeps key definition where
  type := columnType_whole_or_text field.type
  isKey := by simp [Column.ofField]
  notNull := h.notNull
  unique := h.unique
  default := h.default

section Columns

variable {key : String} {properties : Fields Field}

theorem names_plainColumns :
    (plainColumns key properties).map Column.name = properties.keys.filter (· != key) := by
  simp only [plainColumns, Fields.keys, List.map_map, List.filter_map]
  rfl

/-- The names of the columns are those of the declaration, with the identifying one first or
omitted. -/
theorem names_columnsOf :
    (columnsOf key properties).map Column.name =
      if key ∈ properties.keys then
        properties.keys.take 1 ++ (properties.keys.drop 1).filter (· != key)
      else key :: properties.keys := by
  unfold columnsOf
  by_cases hkey : properties.contains key = true
  · rw [if_pos hkey, if_pos (Fields.contains_iff_mem_keys.mp hkey)]
    cases properties with
    | nil => rfl
    | cons field rest =>
      change field.1 :: (plainColumns key rest).map Column.name = _
      rw [names_plainColumns]
      rfl
  · have hmem : key ∉ properties.keys := fun h => hkey (Fields.contains_iff_mem_keys.mpr h)
    rw [if_neg hkey, if_neg hmem, List.map_cons, names_plainColumns]
    congr 1
    rw [List.filter_eq_self]
    intro name hname
    have hother : name ≠ key := fun h => hmem (h ▸ hname)
    simpa using hother

theorem columnsOf_ne_nil : columnsOf key properties ≠ [] := by
  unfold columnsOf
  split
  · cases properties with
    | nil => cases ‹Fields.contains [] key = true›
    | cons => simp
  · simp

theorem nodup_names_columnsOf (h : properties.keys.Nodup) :
    ((columnsOf key properties).map Column.name).Nodup := by
  rw [names_columnsOf]
  split
  · have hparts : (properties.keys.take 1 ++ properties.keys.drop 1).Nodup := by
      rwa [List.take_append_drop]
    exact hparts.sublist (List.filter_sublist.append_left _)
  · exact List.nodup_cons.mpr ⟨‹_›, h⟩

/-- Except for the identifying one, the columns are the declared fields in their order. -/
theorem filter_names_columnsOf :
    ((columnsOf key properties).map Column.name).filter (· != key) =
      properties.keys.filter (· != key) := by
  rw [names_columnsOf]
  split
  · rw [List.filter_append, List.filter_filter]
    simp only [Bool.and_self]
    rw [← List.filter_append, List.take_append_drop]
  · simp

theorem head?_names_columnsOf (h : key ∉ properties.keys ∨ properties.keys.head? = some key) :
    ((columnsOf key properties).map Column.name).head? = some key := by
  rw [names_columnsOf]
  split
  · have hfirst : properties.keys.head? = some key := h.resolve_left (not_not_intro ‹_›)
    obtain ⟨rest, hkeys⟩ := List.head?_eq_some_iff.mp hfirst
    simp [hkeys]
  · rfl

/-- A column is the one added to a declaration without it, or that of a declared field. -/
theorem mem_columnsOf {c : Column} (h : c ∈ columnsOf key properties) :
    (c = .ofKey key ∧ key ∉ properties.keys) ∨
      ∃ name field, (name, field) ∈ properties ∧ c = .ofField key name field := by
  have hplain : ∀ fields : Fields Field, c ∈ plainColumns key fields →
      ∃ name field, (name, field) ∈ fields ∧ c = .ofField key name field := by
    intro fields hc
    obtain ⟨⟨name, field⟩, hfield, rfl⟩ := List.mem_map.mp hc
    exact ⟨name, field, List.mem_of_mem_filter hfield, rfl⟩
  unfold columnsOf at h
  split at h
  · cases properties with
    | nil => cases h
    | cons first rest =>
      right
      rcases List.mem_cons.mp h with rfl | hc
      · exact ⟨_, _, List.mem_cons_self, rfl⟩
      · obtain ⟨name, field, hfield, hcolumn⟩ := hplain rest hc
        exact ⟨name, field, List.mem_cons_of_mem first hfield, hcolumn⟩
  · rename_i hkey
    rcases List.mem_cons.mp h with rfl | hc
    · exact .inl ⟨rfl, fun hmem => hkey (Fields.contains_iff_mem_keys.mpr hmem)⟩
    · exact .inr (hplain properties hc)

end Columns

section Reading

variable {α : Type} {read : α → Checked Field} {definitions : Fields α} {fields : Fields Field}

/-- Whether the fields are the results of reading the definitions of a declaration, name by name. -/
def ReadAs (read : α → Checked Field) (definitions : Fields α) (fields : Fields Field) : Prop :=
  List.Forall₂ (fun declared field => declared.1 = field.1 ∧ read declared.2 = .ok field.2)
    definitions fields

theorem exists_readAs (h : ∀ declared ∈ definitions, ∃ field, read declared.2 = .ok field) :
    ∃ fields, ReadAs read definitions fields := by
  induction definitions with
  | nil => exact ⟨[], .nil⟩
  | cons declared rest ih =>
    obtain ⟨field, hfield⟩ := h declared List.mem_cons_self
    obtain ⟨fields, hrest⟩ := ih fun other hother => h other (List.mem_cons_of_mem declared hother)
    exact ⟨(declared.1, field) :: fields, .cons ⟨rfl, hfield⟩ hrest⟩

theorem ReadAs.keys_eq (h : ReadAs read definitions fields) : definitions.keys = fields.keys := by
  induction h with
  | nil => rfl
  | cons hfield _ ih => exact congrArg₂ List.cons hfield.1 ih

theorem ReadAs.exists_of_mem (h : ReadAs read definitions fields) {name : String} {field : Field}
    (hfield : (name, field) ∈ fields) : ∃ v, (name, v) ∈ definitions ∧ read v = .ok field := by
  induction h with
  | nil => cases hfield
  | @cons declared first rest others hfirst _ ih =>
    rcases List.mem_cons.mp hfield with rfl | hmem
    · exact ⟨declared.2, List.mem_cons.mpr (.inl (Prod.ext hfirst.1.symm rfl)), hfirst.2⟩
    · obtain ⟨v, hv, hread⟩ := ih hmem
      exact ⟨v, List.mem_cons_of_mem declared hv, hread⟩

/-- The columns do not depend on when the definitions are read. -/
theorem ReadAs.declaredColumns_eq (h : ReadAs read definitions fields) (key : String)
    (first : Bool) :
    declaredColumns key read first definitions = declaredColumns key .ok first fields := by
  induction h generalizing first with
  | nil => rfl
  | @cons declared field rest others hfield _ ih =>
    obtain ⟨name, v⟩ := declared
    obtain ⟨other, field⟩ := field
    obtain ⟨rfl, hread⟩ := hfield
    by_cases hskipped : (name = key && !first) = true
    · simp only [declaredColumns, if_pos hskipped, ih]
    · simp only [declaredColumns, if_neg hskipped, ih, hread]

theorem ReadAs.createTableWith_eq (h : ReadAs read definitions fields)
    (idAttribute table : String) :
    createTableWith read idAttribute definitions table =
      createTable idAttribute fields table := by
  have hdeclared : ∀ name, definitions.contains name = fields.contains name := by
    intro name
    rw [Bool.eq_iff_iff, Fields.contains_iff_mem_keys, Fields.contains_iff_mem_keys, h.keys_eq]
  simp only [createTable, createTableWith, hdeclared, h.declaredColumns_eq]

end Reading

/-- The statement of a valid declaration has exactly one column for every declared field except the
identifying one, in the order of the declaration. The identifying column is the first one unless it
is declared after another, and the constraints at the end of the text of a declared column are those
set by its definition. -/
theorem createTableOfValues_keeps {idAttribute table : String} {definitions : Fields Value}
    (hnames : definitions.keys.Nodup)
    (hvalid : ∀ declared ∈ definitions, ∃ field, readLoosely declared.2 = .ok field) :
    ∃ columns : List Column,
      createTableOfValues idAttribute definitions table =
        .ok ("CREATE TABLE IF NOT EXISTS " ++ table ++ " ("
          ++ ", ".intercalate (columns.map Column.text) ++ ")") ∧
      columns ≠ [] ∧
      (columns.map Column.name).Nodup ∧
      (columns.map Column.name).filter (· != effectiveId idAttribute) =
        definitions.keys.filter (· != effectiveId idAttribute) ∧
      ((effectiveId idAttribute ∉ definitions.keys ∨
          definitions.keys.head? = some (effectiveId idAttribute)) →
        (columns.map Column.name).head? = some (effectiveId idAttribute)) ∧
      ∀ c ∈ columns, ∀ v, (c.name, v) ∈ definitions →
        c.Keeps (effectiveId idAttribute) (definitionOf v) ∧
        c.text = c.name ++ " " ++ c.type ++ c.constraints.text ∧
        Constraints.read c.constraints.text.toList = c.constraints := by
  obtain ⟨fields, hfields⟩ := exists_readAs hvalid
  rw [hfields.keys_eq]
  refine ⟨columnsOf (effectiveId idAttribute) fields, ?_, columnsOf_ne_nil,
    nodup_names_columnsOf (hfields.keys_eq ▸ hnames), filter_names_columnsOf,
    head?_names_columnsOf, ?_⟩
  · exact (hfields.createTableWith_eq idAttribute table).trans (createTable_eq ..)
  · intro c hc v hv
    refine ⟨?_, c.text_eq, Constraints.read_text _⟩
    rcases mem_columnsOf hc with ⟨rfl, hmissing⟩ | ⟨name, field, hfield, rfl⟩
    · exact absurd (hfields.keys_eq ▸ List.mem_map_of_mem hv) hmissing
    · obtain ⟨v', hv', hread⟩ := hfields.exists_of_mem hfield
      -- The names are distinct, so this is the definition that the column was made of.
      have hsame := List.inj_on_of_nodup_map hnames hv hv' rfl
      cases hsame
      exact (mirrors_of_readLoosely hread).keeps

/-- Definitions that set every constraint, have a null default, or are falsy. -/
def noteDefinitions : Fields Value :=
  [("title", .object [("type", .text "string"), ("required", .int 1), ("unique", .bool true)]),
   ("rank", .object [("type", .text "number"), ("not_null", .bool true), ("default", .null)]),
   ("text", .null)]

theorem createTableOfValues_keeps_notes :
    noteDefinitions.keys.Nodup ∧
      (∀ declared ∈ noteDefinitions, ∃ field, readLoosely declared.2 = .ok field) ∧
      createTableOfValues "" noteDefinitions "notes" =
        .ok ("CREATE TABLE IF NOT EXISTS notes (_id INTEGER PRIMARY KEY AUTOINCREMENT, "
          ++ "title TEXT NOT NULL UNIQUE, rank INTEGER NOT NULL DEFAULT NULL, text TEXT)") ∧
      ∃ columns : List Column,
        createTableOfValues "" noteDefinitions "notes" =
          .ok ("CREATE TABLE IF NOT EXISTS notes ("
            ++ ", ".intercalate (columns.map Column.text) ++ ")") ∧
        (columns.map Column.name).head? = some "_id" ∧
        (columns.map Column.name).filter (· != "_id") = ["title", "rank", "text"] := by
  have hnames : noteDefinitions.keys.Nodup := by decide
  have hvalid : ∀ declared ∈ noteDefinitions, ∃ field, readLoosely declared.2 = .ok field := by
    simp only [noteDefinitions, List.forall_mem_cons, List.not_mem_nil, false_implies,
      implies_true, and_true]
    exact ⟨⟨_, rfl⟩, ⟨_, rfl⟩, ⟨_, rfl⟩⟩
  obtain ⟨columns, hsql, -, -, hkept, hfirst, -⟩ :=
    @createTableOfValues_keeps "" "notes" _ hnames hvalid
  exact ⟨hnames, hvalid, rfl, columns, hsql, hfirst (.inl (by decide)), hkept⟩

end Schema

end SqlBridge
