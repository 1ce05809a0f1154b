import SqlBridge.Failure

/-!
Data statements, independently of their text. A predicate holds its operand as a value.
-/

namespace SqlBridge.Sql

/-- The name of a column in a query. Only a text is a name; the other forms are kept because they
fail at different stages. -/
inductive ColumnName where
  | named (name : String)
  | unnamed
  | numeric
  | compound
deriving DecidableEq

def ColumnName.ofValue : Value → ColumnName
  | .text s => .named s
  | .null => .unnamed
  | .list _ => .compound
  | .object _ => .compound
  | _ => .numeric

inductive Relation where
  | equal
  | notEqual
  | greater
  | greaterOrEqual
  | less
  | lessOrEqual
deriving DecidableEq

def Relation.symbol : Relation → String
  | .equal => "="
  | .notEqual => "!="
  | .greater => ">"
  | .greaterOrEqual => ">="
  | .less => "<"
  | .lessOrEqual => "<="

/-- A condition on a row. Null and truth values are written into the text, all other operands are
parameters. -/
inductive Predicate where
  | isNull (column : ColumnName) (positive : Bool)
  | isTruth (column : ColumnName) (positive truth : Bool)
  | compare (column : ColumnName) (relation : Relation) (operand : Value)
  | member (column : ColumnName) (positive : Bool) (operands : List Value)

structure Order where
  column : ColumnName
  descending : Bool
deriving DecidableEq

/-- A page of rows: at most `limit` of them after the first `offset`. -/
structure Page where
  limit : Option Int
  offset : Option Int
deriving DecidableEq, Inhabited

inductive Projection where
  | everything
  | rowId
  | count
  | sum (column : ColumnName)
deriving DecidableEq

/-- A read: one page of the rows of a table that satisfy every predicate, in an order. -/
structure Selection where
  projection : Projection
  table : String
  predicates : List Predicate
  order : List Order
  page : Page

/-- The rows that a change affects. Ordered or paged rows are selected by a subquery for their row
ids. -/
inductive Scope where
  | all
  | satisfying (predicates : List Predicate)
  | chosen (rows : Selection)

inductive Statement where
  | select (selection : Selection)
  | insert (table : String) (columns : List String) (rows : List (List Value))
  | insertRow (table : String) (columns : List String) (row : List Value)
  | update (table : String) (assignments : Fields Value) (scope : Scope)
  | delete (table : String) (scope : Scope)

end SqlBridge.Sql
