import SqlBridge.Fields
import SqlBridge.Decimal.Shortest
import SqlBridge.Text.Quoted

/-!
The values of records, queries and answers. The fields of an object are ordered, and the order is
part of the value.
-/

namespace SqlBridge

open Decimal

inductive Value where
  | null
  | bool (b : Bool)
  | int (n : Int)
  | double (x : Double)
  | text (s : String)
  | list (items : List Value)
  | object (fields : List (String × Value))
deriving Inhabited

namespace Value

/-- False for null, false, zeros, and empty texts, lists and objects. -/
def truthy : Value → Bool
  | null => false
  | bool b => b
  | int n => n != 0
  | double x => !x.isZero
  | text s => !s.isEmpty
  | list items => !items.isEmpty
  | object fields => !fields.isEmpty

def isNull : Value → Bool
  | null => true
  | _ => false

def isContainer : Value → Bool
  | list _ => true
  | object _ => true
  | _ => false

def isText : Value → Bool
  | text _ => true
  | _ => false

def text? : Value → Option String
  | text s => some s
  | _ => none

def object? : Value → Option (Fields Value)
  | object fields => some fields
  | _ => none

/-- The items of a list, the characters of a text or the names of an object; other values have no
members. -/
def members? : Value → Option (List Value)
  | text s => some (s.toList.map fun c => text (String.singleton c))
  | list items => some items
  | object fields => some (fields.map fun (name, _) => text name)
  | _ => none

/-- The value of a field, null when the name is missing. -/
def field (fields : Fields Value) (name : String) : Value := (fields.get? name).getD null

mutual

/-- A value as a literal, with texts between quotes. -/
def literal : Value → String
  | null => "None"
  | bool b => if b then "True" else "False"
  | int n => intText n
  | double x => x.text
  | text s => Text.quoted s
  | list items => "[" ++ ", ".intercalate (literals items) ++ "]"
  | object fields => "\x7b" ++ ", ".intercalate (fieldLiterals fields) ++ "\x7d"

def literals : List Value → List String
  | [] => []
  | v :: rest => literal v :: literals rest

def fieldLiterals : List (String × Value) → List String
  | [] => []
  | (name, v) :: rest => (Text.quoted name ++ ": " ++ literal v) :: fieldLiterals rest

end

/-- A text as it is, any other value as a literal. -/
def shown : Value → String
  | text s => s
  | v => literal v

mutual

/-- The depth to which lists and objects are nested. -/
def depth : Value → Nat
  | list items => depthOfItems items + 1
  | object fields => depthOfFields fields + 1
  | _ => 0

def depthOfItems : List Value → Nat
  | [] => 0
  | v :: rest => max v.depth (depthOfItems rest)

def depthOfFields : List (String × Value) → Nat
  | [] => 0
  | (_, v) :: rest => max v.depth (depthOfFields rest)

end

/-- A scalar as a member of a set. Numbers are distinguished by their amount only. -/
inductive Key where
  | null
  | whole (n : Int)
  | fractional (x : Double)
  | text (s : String)
deriving DecidableEq

/-- The key of a scalar; containers have none. -/
def key? : Value → Option Key
  | null => some .null
  | bool b => some (.whole (if b then 1 else 0))
  | int n => some (.whole n)
  | double x => some (match x.toInt? with
    | some n => .whole n
    | none => .fractional x)
  | text s => some (.text s)
  | list _ => none
  | object _ => none

end Value

end SqlBridge
