import SqlBridge.Console.Table
import SqlBridge.Document.Writer

/-!
Reports as console tables: result rows, with the union of their keys as columns, and the metadata of
an execution, with the figures of known keys.
-/

namespace SqlBridge.Report

open Console

/-- The text of a cell. Lists and objects are documents. -/
def cellText : Value → String
  | .null => "[dim]NULL[/dim]"
  | v => if v.isContainer then Document.compact v else v.shown

/-- Every key of the rows, in the order in which the keys first occur. -/
def columnNames (rows : List (Fields Value)) : List String :=
  rows.foldl
    (fun names row => names ++ row.keys.filter fun name => !names.contains name) []

def rowColumn (rows : List (Fields Value)) (name : String) : Column :=
  ⟨name, rows.map fun row => cellText (Value.field row name), ⟨.left, true, true⟩⟩

def rowTable (title : String) (rows : List (Fields Value)) : Table :=
  ⟨title, .rounded, (columnNames rows).map (rowColumn rows),
    some (Decimal.natText rows.length ++ " row(s)")⟩

def defaultTitle : String := "Results"

def printRows (screen : Nat) (title : String) (rows : List (Fields Value)) : Outcome String :=
  if rows.isEmpty then printMessage screen "[yellow]No rows.[/yellow]"
  else (rowTable title rows).print screen

/-- The keys of metadata that are shown. -/
def figures : List String :=
  ["changes", "last_row_id", "rows_read", "rows_written", "duration", "served_by_region",
   "changed_db"]

def shownFigures (metadata : Fields Value) : Fields Value :=
  figures.filterMap fun name => (metadata.get? name).map (name, ·)

def figureTable (shown : Fields Value) : Table :=
  ⟨"Meta", .simple,
    [⟨"Key", shown.map (·.1), ⟨.left, false, false⟩⟩,
     ⟨"Value", shown.map fun (_, v) => cellText v, ⟨.right, true, false⟩⟩], none⟩

def printFigures (screen : Nat) (metadata : Fields Value) : Outcome String :=
  match shownFigures metadata with
  | [] => .ok ""
  | shown => (figureTable shown).print screen

/-- Rows as they come in a document. Rows without any key need not be objects. -/
def readRows (v : Value) : Outcome (List (Fields Value)) :=
  if !v.truthy then .ok []
  else
    match v.members?.bind fun rows => rows.mapM fun row => row.members?.map (row, ·) with
    | none => .error (.wrongType "")
    | some rows =>
      if rows.all fun (_, members) => members.isEmpty then .ok (rows.map fun _ => [])
      else rows.mapM fun (row, _) => (row.object?.elim (.error .noMember) .ok)

/-- The metadata of a document; a value without members has no figures. -/
def readMetadata : Value → Outcome (Fields Value)
  | .object fields => .ok fields
  | v => if v.members?.isSome then .ok [] else .error (.wrongType "")

end SqlBridge.Report
