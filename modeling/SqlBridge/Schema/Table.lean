import SqlBridge.Schema.Mapper
import SqlBridge.Document.Writer

/-!
The statement that provisions a table. Columns have the order of the declaration; an identifying
column that is not declared comes first. Names are written unquoted, and the statement is
idempotent.
-/

namespace SqlBridge.Schema

open Validation

/-- The storage class of a declared type. -/
def columnType (type : FieldType) : String :=
  match type.name? with
  | some "number" => "INTEGER"
  | some "integer" => "INTEGER"
  | some "boolean" => "INTEGER"
  | _ => "TEXT"

/-- The text of a default. Declarations are trusted: text is not escaped. -/
def defaultLiteral : Value → String
  | .text s => "'" ++ s ++ "'"
  | .bool b => if b then "true" else "false"
  | .null => "NULL"
  | .int n => Decimal.intText n
  | .double x => x.text
  | v => "'" ++ Document.compact v ++ "'"

def idColumn (idAttribute : String) : String := idAttribute ++ " INTEGER PRIMARY KEY AUTOINCREMENT"

def column (name : String) (field : Field) (idAttribute : String) : String :=
  name ++ " " ++ columnType field.type
    ++ (if name = idAttribute then " PRIMARY KEY AUTOINCREMENT" else "")
    ++ (if field.required || field.notNull then " NOT NULL" else "")
    ++ (if field.unique then " UNIQUE" else "")
    ++ (match field.default? with
      | some v => " DEFAULT " ++ defaultLiteral v
      | none => "")

/-- The identifying attribute; an empty one is replaced by `_id`. -/
def effectiveId (idAttribute : String) : String :=
  if idAttribute.isEmpty then "_id" else idAttribute

/-- The columns of a declaration, after a column or not. The identifying column is omitted after
another one. -/
def declaredColumns {α : Type} (idAttribute : String) (read : α → Checked Field) (first : Bool) :
    Fields α → Checked (List String)
  | [] => .ok []
  | (name, declared) :: rest =>
    if name = idAttribute && !first then declaredColumns idAttribute read first rest
    else do
      let field ← read declared
      let columns ← declaredColumns idAttribute read false rest
      return column name field idAttribute :: columns

/-- The provisioning statement of a declaration whose fields are read by `read`. -/
def createTableWith {α : Type} (read : α → Checked Field) (idAttribute : String)
    (properties : Fields α) (table : String) : Checked String := do
  let id := effectiveId idAttribute
  let synthesized := if properties.contains id then [] else [idColumn id]
  let declared ← declaredColumns id read synthesized.isEmpty properties
  let columns := synthesized ++ declared
  let columns := if columns.isEmpty then [idColumn id] else columns
  return "CREATE TABLE IF NOT EXISTS " ++ table ++ " (" ++ ", ".intercalate columns ++ ")"

/-- Reads a definition, where a falsy one has no entries. -/
def readLoosely (v : Value) : Checked Field := Field.read (if v.truthy then v else .object [])

/-- The statement for declarations that are not yet read. -/
def createTableOfValues (idAttribute : String) (properties : Fields Value) (table : String) :
    Checked String :=
  createTableWith readLoosely idAttribute properties table

/-- Reads every definition in order, up to the first invalid one. -/
def readEach (read : Value → Checked Field) : Fields Value → Checked (Fields Field)
  | [] => .ok []
  | (name, v) :: rest => do
    let field ← read v
    let fields ← readEach read rest
    return (name, field) :: fields

def createTable (idAttribute : String) (properties : Fields Field) (table : String) :
    Checked String :=
  createTableWith .ok idAttribute properties table

def Mapper.createTable (m : Mapper) : Checked String :=
  Schema.createTable m.idAttribute m.properties m.tableName

end SqlBridge.Schema
