import SqlBridge.Validation

/-!
The declaration of one column. A declared default is set even when it is null, and so are unknown
names.
-/

namespace SqlBridge.Schema

open Validation

inductive FieldType where
  | unspecified
  | named (name : String)
  | oneOf (names : List String)
deriving DecidableEq, Inhabited

structure Field where
  type : FieldType
  required : Bool
  notNull : Bool
  unique : Bool
  default? : Option Value
  extra : Fields Value
deriving Inhabited

/-- The name of the type when there is exactly one. -/
def FieldType.name? : FieldType → Option String
  | .named name => some name
  | _ => none

def FieldType.toValue : FieldType → Value
  | .unspecified => .null
  | .named name => .text name
  | .oneOf names => .list (names.map .text)

/-- A type is null, a name or a list of names. Any other value fails as a name and as a list. -/
def FieldType.read (v : Value) : Checked FieldType :=
  match v with
  | .null => .ok .unspecified
  | .text name => .ok (.named name)
  | other =>
    let asNames := within (.name "list[str]") do
      let items ← list other
      eachIndexed text items
    match asNames with
    | .ok names => .ok (.oneOf names)
    | .error issues => .error (⟨[.name "str"], .textType⟩ :: issues)

/-- The known names of a declaration, which depend on whether it uses the public name of `notNull`.
-/
def Field.knownNames (fields : Fields Value) : List String :=
  ["type", "required", if fields.contains "notNull" then "notNull" else "not_null", "unique",
   "default"]

def Field.read (v : Value) : Checked Field := do
  let fields ← record v
  let (type, required, notNull, unique) ←
    both (optional fields "type" .unspecified FieldType.read)
      (both (optional fields "required" false truth)
        (both (optionalEither fields "notNull" "not_null" false truth)
          (optional fields "unique" false truth)))
  return { type, required, notNull, unique, default? := fields.get? "default"
           extra := extras fields (knownNames fields) }

end SqlBridge.Schema
