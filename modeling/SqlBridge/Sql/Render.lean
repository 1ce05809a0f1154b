import SqlBridge.Sql.Identifier
import SqlBridge.Sql.Statement

/-!
Statements as text with placeholders and parameters. A statement is first drafted: every placeholder
in its text has the name of a bind parameter, and the value that is kept under this name. Then the
values are looked up, for each placeholder by its name.

The text does not show the names. The parameter of a written column has the name of the column, the
parameters of operands are numbered by a base that is made from their column, and the parameters of
a member list are numbered after the list. A column that has the name of a numbered parameter is a
clash, and the statement cannot be written.
-/

namespace SqlBridge.Sql

/-- The name of a bind parameter. A member of a list has the name of the list and its place, counted
from one; a member of a row has the place of the row and its place in the row. Names with a place
are distinct from names without one: a column called `a_1_1` and the first member of the list `a_1`
are two parameters. -/
structure BindName where
  text : String
  place : List Nat
deriving DecidableEq

/-- The bind parameter of a placeholder. -/
structure Slot where
  name : BindName
  value : Value

/-- The bind parameter of a single value. -/
def Slot.named (name : String) (v : Value) : Slot := ⟨⟨name, []⟩, v⟩

/-- A piece of a statement with the items of its placeholders in order: bind parameters in a draft,
values in a rendered statement. -/
structure Fragment (α : Type) where
  text : String
  params : List α
deriving Inhabited

namespace Fragment

variable {α β : Type}

def ofText (text : String) : Fragment α := ⟨text, []⟩

def append (a b : Fragment α) : Fragment α := ⟨a.text ++ b.text, a.params ++ b.params⟩

instance : Append (Fragment α) := ⟨append⟩

/-- Pieces with a text between each two of them. -/
def join (separator : String) : List (Fragment α) → Fragment α
  | [] => ofText ""
  | [a] => a
  | a :: rest => a ++ ofText separator ++ join separator rest

end Fragment

/-- One placeholder. -/
def placeholder {α : Type} (a : α) : Fragment α := ⟨"?", [a]⟩

/-- One placeholder for each parameter, between parentheses. -/
def group {α : Type} (params : List α) : Fragment α :=
  Fragment.ofText "(" ++ Fragment.join ", " (params.map placeholder) ++ Fragment.ofText ")"

def isBaseSeparator (c : Char) : Bool := "%() $.[]:".toList.contains c

/-- Every run of separators replaced by one underscore. -/
def replaceRuns (inRun : Bool) : List Char → List Char
  | [] => []
  | c :: rest =>
    if isBaseSeparator c then
      if inRun then replaceRuns true rest else '_' :: replaceRuns true rest
    else c :: replaceRuns false rest

/-- The base of the parameter names of a column. -/
def bindBase (column : String) : String :=
  String.ofList (Text.trimBy (· == '_') (replaceRuns false column.toList))

/-- The parameter names in use: the changed columns, and the bases of the numbered ones. -/
structure Binds where
  columns : List String
  bases : List String

/-- The next parameter name of a base, unless a changed column has it. -/
def Binds.next (binds : Binds) (base : String) : Outcome (String × Binds) :=
  let name := base ++ "_" ++ Decimal.natText (binds.bases.count base + 1)
  if binds.columns.contains name then .error (.bindClash name)
  else .ok (name, ⟨binds.columns, base :: binds.bases⟩)

def ColumnName.render : ColumnName → Outcome String
  | .named name => .ok (identifier name)
  | .unnamed => .error .unnamedColumn
  | .numeric => .error .noMember
  | .compound => .error (.wrongType "")

def ColumnName.base : ColumnName → String
  | .named name => bindBase name
  | _ => "param"

/-- The members of each row when the first operand is a list, so that all operands are rows. -/
def rowsOf? (operands : List Value) : Option (List Value) :=
  match operands with
  | .list _ :: _ => some operands
  | _ => none

/-- The bind parameters of the members of a list, or of the members of the row at a place. -/
def memberSlots (name : String) (place : List Nat) (values : List Value) : List Slot :=
  (values.zipIdx 1).map fun (v, i) => ⟨⟨name, place ++ [i]⟩, v⟩

/-- A member list with one placeholder for every member of every row. -/
def rowGroups (name : String) (rows : List Value) : Fragment Slot :=
  Fragment.ofText "(VALUES "
    ++ Fragment.join ", " ((rows.zipIdx 1).map fun (row, i) =>
      group (memberSlots name [i] (row.members?.getD [])))
    ++ Fragment.ofText ")"

/-- A list of no members is written as a read of no rows. -/
def emptyMembers : Fragment Slot := Fragment.ofText "(SELECT 1 FROM (SELECT 1) WHERE 1!=1)"

/-- Parameter names with a blank other than the space in them are not expanded. -/
def expands (name : String) : Bool := name.toList.all fun c => !Text.isBlank c

def memberGroup (name : String) (operands : List Value) : Fragment Slot :=
  if !expands name then Fragment.ofText ("(__[POSTCOMPILE_" ++ name ++ "])")
  else if operands.isEmpty then emptyMembers
  else
    match rowsOf? operands with
    | some rows => rowGroups name rows
    | none => group (memberSlots name [] operands)

/-- A predicate, given the parameter names in use before it. -/
def Predicate.render (binds : Binds) : Predicate → Outcome (Fragment Slot × Binds)
  | .isNull column positive => do
    let name ← column.render
    return (Fragment.ofText (name ++ (if positive then " IS NULL" else " IS NOT NULL")), binds)
  | .isTruth column positive truth => do
    let name ← column.render
    return (Fragment.ofText
      (name ++ (if positive then " = " else " != ") ++ (if truth then "1" else "0")), binds)
  | .compare column relation operand => do
    let name ← column.render
    let (bind, binds) ← binds.next column.base
    return (Fragment.ofText (name ++ " " ++ relation.symbol ++ " ")
      ++ placeholder (.named bind operand), binds)
  | .member column positive operands => do
    let name ← column.render
    let (bind, binds) ← binds.next column.base
    let members := memberGroup bind operands
    if positive then return (Fragment.ofText (name ++ " IN ") ++ members, binds)
    else
      return (Fragment.ofText ("(" ++ name ++ " NOT IN ") ++ members ++ Fragment.ofText ")", binds)

def renderPredicates (binds : Binds) :
    List Predicate → Outcome (List (Fragment Slot) × Binds)
  | [] => .ok ([], binds)
  | p :: rest => do
    let (fragment, binds) ← p.render binds
    let (fragments, binds) ← renderPredicates binds rest
    return (fragment :: fragments, binds)

/-- All predicates joined, after `lead` unless there are none. -/
def whereClause {α : Type} (lead : String) : List (Fragment α) → Fragment α
  | [] => Fragment.ofText ""
  | fragments => Fragment.ofText lead ++ Fragment.join " AND " fragments

def Order.render (o : Order) : Outcome String := do
  let name ← o.column.render
  return name ++ (if o.descending then " DESC" else " ASC")

def orderClause (orders : List Order) : Outcome String := do
  let names ← orders.mapM Order.render
  return if names.isEmpty then "" else " ORDER BY " ++ ", ".intercalate names

/-- Limit and offset are always written together; a missing limit is -1 and a missing offset is 0.
-/
def Page.render (binds : Binds) (page : Page) : Outcome (Fragment Slot × Binds) :=
  match page.limit, page.offset with
  | none, none => .ok (Fragment.ofText "", binds)
  | limit, offset => do
    let (first, binds) ← binds.next "param"
    let (second, binds) ← binds.next "param"
    return (⟨"\n LIMIT ? OFFSET ?",
      [.named first (.int (limit.getD (-1))), .named second (.int (offset.getD 0))]⟩, binds)

def Projection.render : Projection → Outcome String
  | .everything => .ok "*"
  | .rowId => .ok "rowid"
  | .count => .ok "count(*) AS count"
  | .sum column => do
    let name ← column.render
    return "sum(" ++ name ++ ") AS sum"

def Selection.render (binds : Binds) (s : Selection) : Outcome (Fragment Slot × Binds) := do
  let projection ← s.projection.render
  let (predicates, binds) ← renderPredicates binds s.predicates
  let order ← orderClause s.order
  let (page, binds) ← s.page.render binds
  return (Fragment.ofText ("SELECT " ++ projection ++ " \nFROM " ++ identifier s.table)
    ++ whereClause " \nWHERE " predicates ++ Fragment.ofText order ++ page, binds)

def Scope.render (binds : Binds) : Scope → Outcome (Fragment Slot)
  | .all => .ok (Fragment.ofText "")
  | .satisfying predicates => do
    let (fragments, _) ← renderPredicates binds predicates
    return whereClause " WHERE " fragments
  | .chosen rows => do
    let (fragment, _) ← rows.render binds
    return Fragment.ofText " WHERE rowid IN (" ++ fragment ++ Fragment.ofText ")"

def assignment (field : String × Value) : Fragment Slot :=
  Fragment.ofText (identifier field.1 ++ "=") ++ placeholder (.named field.1 field.2)

def Scope.predicates : Scope → List Predicate
  | .all => []
  | .satisfying predicates => predicates
  | .chosen rows => rows.predicates

def Statement.predicates : Statement → List Predicate
  | .select selection => selection.predicates
  | .insert _ _ _ => []
  | .insertRow _ _ _ => []
  | .update _ _ scope => scope.predicates
  | .delete _ scope => scope.predicates

/-- If the first operand of a member list is a list, every operand is a row. A row may not be longer
than its place in the list of all members allows. -/
def checkRows (rows : List Value) : Outcome Unit := do
  let lengths ← rows.mapM fun row =>
    match row.members? with
    | some members => Except.ok members.length
    | none => .error (.wrongType "")
  let total := lengths.foldl (· + ·) 0
  if lengths.zipIdx.any fun (length, i) => 0 < length && total < (i + 1) * length then
    .error .rowTooLong
  else return ()

def Predicate.check : Predicate → Outcome Unit
  | .member _ _ operands =>
    match rowsOf? operands with
    | some rows => checkRows rows
    | none => .ok ()
  | _ => .ok ()

def Predicate.isMember : Predicate → Bool
  | .member _ _ _ => true
  | _ => false

/-- Replaces a separator in a name. -/
def escapedChar : Char → Char
  | '%' => 'P'
  | '(' => 'A'
  | ')' => 'Z'
  | ':' => 'C'
  | '.' => '_'
  | '[' => '_'
  | ']' => '_'
  | ' ' => '_'
  | c => c

def BindName.escaped (name : BindName) : BindName :=
  ⟨String.ofList (name.text.toList.map escapedChar), name.place⟩

/-- The name under which a statement keeps the value of a parameter. Names are escaped unless a
member list is expanded. -/
def Statement.keptName (s : Statement) (name : BindName) : BindName :=
  if s.predicates.any Predicate.isMember then name else name.escaped

/-- The value that is kept under a name; of several values under one name, the last. -/
def keptValue (kept : BindName → BindName) (slots : List Slot) (name : BindName) : Outcome Value :=
  match slots.reverse.find? fun slot => kept slot.name = name with
  | some slot => .ok slot.value
  | none => .error (.missingBind name.text)

/-- Looks up the value of every placeholder by its name. -/
def lookUp (kept : BindName → BindName) (slots : List Slot) : Outcome (List Value) :=
  slots.mapM fun slot => keptValue kept slots slot.name

def columnList (columns : List String) : String :=
  " (" ++ ", ".intercalate (columns.map identifier) ++ ")"

/-- The bind parameters of a row; `mark` distinguishes the rows of a statement. -/
def rowSlots (columns : List String) (mark : String) (row : List Value) : List Slot :=
  List.zipWith (fun column v => .named (column ++ mark) v) columns row

def insertText {α : Type} (table : String) (columns : List String) (rows : List (List α)) :
    Fragment α :=
  if columns.isEmpty then Fragment.ofText ("INSERT INTO " ++ identifier table ++ " DEFAULT VALUES")
  else
    Fragment.ofText ("INSERT INTO " ++ identifier table ++ columnList columns ++ " VALUES ")
      ++ Fragment.join ", " (rows.map group)

/-- Refuses a column that is written twice. -/
def checkDistinct : List String → Outcome Unit
  | [] => .ok ()
  | column :: rest =>
    if rest.contains column then .error (.bindClash column) else checkDistinct rest

/-- A statement in which every placeholder has its bind parameter. -/
def Statement.draft : Statement → Outcome (Fragment Slot)
  | .select selection => do
    let (fragment, _) ← selection.render ⟨[], []⟩
    return fragment
  | .insert table columns rows => do
    checkDistinct columns
    return insertText table columns
      (rows.zipIdx.map fun (row, i) => rowSlots columns ("_m" ++ Decimal.natText i) row)
  | .insertRow table columns row => do
    checkDistinct columns
    return insertText table columns [rowSlots columns "" row]
  | .update table assignments scope => do
    checkDistinct assignments.keys
    let fragment ← scope.render ⟨assignments.keys, []⟩
    return Fragment.ofText ("UPDATE " ++ identifier table ++ " SET ")
      ++ Fragment.join ", " (assignments.map assignment) ++ fragment
  | .delete table scope => do
    let fragment ← scope.render ⟨[], []⟩
    return Fragment.ofText ("DELETE FROM " ++ identifier table) ++ fragment

/-- The text of a statement, and for each placeholder the value that is kept under its name. -/
def Statement.render (s : Statement) : Outcome (Fragment Value) := do
  let draft ← s.draft
  s.predicates.forM Predicate.check
  let values ← lookUp s.keptName draft.params
  return ⟨draft.text, values⟩

end SqlBridge.Sql
