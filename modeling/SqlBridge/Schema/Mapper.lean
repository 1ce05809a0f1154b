import SqlBridge.Schema.Field
import SqlBridge.Text.Lower

/-!
The description of one kind of record: its name, the identifying field, an optional table and the
declared fields. The default table of a mapper is its name in snake case.
-/

namespace SqlBridge.Schema

open Validation

structure Mapper where
  name : String
  idAttribute : String
  table : Option String
  properties : Fields Field
deriving Inhabited

def isCapital (c : Char) : Bool := 'A' ≤ c && c ≤ 'Z'

/-- Snake case: an underscore before every capital letter of ASCII, lower case throughout, and no
underscore at the start beyond those that were doubled. -/
def underscore (name : String) : String :=
  let marked := name.toList.flatMap fun c => if isCapital c then ['_', c] else [c]
  let lowered := Text.lowerChars marked
  String.ofList (match lowered with
    | '_' :: rest => rest
    | cs => cs)

namespace Mapper

def ofName (name : String) : Mapper := ⟨name, "_id", none, []⟩

def tableName (m : Mapper) : String :=
  match m.table with
  | some table => if table.isEmpty then underscore m.name else table
  | none => underscore m.name

/-- The declared fields of a schema; a null schema declares none. -/
def readSchema (v : Value) : Checked (Fields Field) :=
  match v with
  | .null => .ok []
  | v => do
    let fields ← record v
    optional fields "properties" [] fun properties => do
      let declared ← object properties
      each (fun (name, definition) =>
        within (.name name) ((Field.read definition).map fun field => (name, field))) declared

def read (v : Value) : Checked Mapper := do
  let fields ← record v
  let name := match fields.get? "name" with
    | some v => within (.name "name") (text v)
    | none => within (.name "name") (issue .missing)
  let (name, idAttribute, table, properties) ←
    both name
      (both (optionalEither fields "idAttribute" "id_attribute" "_id" text)
        (both (optional fields "table" none (nullable text))
          (optionalEither fields "schema" "schema_" [] readSchema)))
  return { name, idAttribute, table, properties }

end Mapper

end SqlBridge.Schema
