import SqlBridge.Query
import SqlBridge.Document.Writer

/-!
Records as parameters of statements. Lists and objects are stored as document text, other values
unchanged. The argument of an operation may be any value; the checks are in the order in which a
misshapen one fails.
-/

namespace SqlBridge.Adapter

/-- The form of a value that is bound to a placeholder. -/
def bound (v : Value) : Value := if v.isContainer then .text (Document.compact v) else v

/-- The values of the columns of a record, null where it has none. -/
def boundRow (record : Fields Value) (columns : List String) : List Value :=
  columns.map fun name => bound (Value.field record name)

/-- The fields of a record with their values bound. -/
def boundFields (record : Fields Value) : Fields Value :=
  record.map fun (name, v) => (name, bound v)

/-- A column of a table may have any name that has a key. -/
def checkColumn : Value → Outcome Unit
  | .null => .error .unnamedTableColumn
  | .list _ => .error (.wrongType "")
  | .object _ => .error (.wrongType "")
  | _ => .ok ()

/-- The number of members of a collection. -/
def size (v : Value) : Outcome Nat :=
  match v.members? with
  | some members => .ok members.length
  | none => .error (.wrongType "")

/-- An entry whose name is a text; numbers are not names of values. -/
def namedEntry (entry : Value × Value) : Outcome (String × Value) :=
  match entry.1 with
  | .text name => .ok (name, entry.2)
  | other => .error (.noColumnName other.literal)

/-- The record of a new row: an object, or a list of pairs. -/
def newRecord (props : Value) : Outcome (Fields Value) := do
  let entries ← entries props
  entries.forM fun entry => checkColumn entry.1
  entries.mapM namedEntry

/-- Checks the columns of a change, before its query is compiled. -/
def changeColumns (props : Value) : Outcome Unit :=
  match props.members? with
  | some names => names.forM checkColumn
  | none => .error (.wrongType "")

/-- The fields of a change, which has to be an object. -/
def changes (props : Value) : Outcome (Fields Value) :=
  match props with
  | .object fields => .ok fields
  | _ => .error .noMember

/-- The names of the members of rows, in the order of their first occurrence. -/
def addNames (names : List Value) (members : List Value) : List Value :=
  members.foldl (fun names v => if names.any (·.key? = v.key?) then names else names ++ [v]) names

/-- The names of all rows; every row must have members. -/
def rowNames (names : List Value) : List Value → Outcome (List Value)
  | [] => .ok names
  | row :: rest =>
    match row.members? with
    | some members => rowNames (addNames names members) rest
    | none => .error (.wrongType "")

/-- A row under common columns. Without columns it need not be a record. -/
def newRow (columns : List String) (row : Value) : Outcome (List Value) :=
  match row with
  | .object record => .ok (boundRow record columns)
  | _ => if columns.isEmpty then .ok [] else .error .noMember

/-- The columns and rows of the insertion of a list of records. -/
def newRows (rows : List Value) : Outcome (List String × List (List Value)) := do
  let names ← rowNames [] rows
  names.forM checkColumn
  let columns := names.map Value.shown
  let values ← rows.mapM (newRow columns)
  return (columns, values)

/-- Whether the metadata reports changed rows. The count may be missing, and has to be a number
otherwise. -/
def reportsChanges (metadata : Fields Value) : Outcome Bool :=
  match Value.field metadata "changes" with
  | .null => .ok false
  | .bool b => .ok b
  | .int n => .ok (0 < n)
  | .double x => .ok (!x.isZero && !x.isNegative && x.read != .nan)
  | v => if v.truthy then .error (.wrongType "") else .ok false

end SqlBridge.Adapter
