import SqlBridge.Validation

/-!
Envelopes of the remote side: success, result sets, errors and messages. Null stands for an empty
list or object.
-/

namespace SqlBridge.Remote

open Validation

/-- The rows of one statement with its metadata. -/
structure QueryResult where
  rows : List (Fields Value)
  metadata : Fields Value
  success : Option Bool
  extra : Fields Value
deriving Inhabited

def QueryResult.empty : QueryResult := ⟨[], [], none, []⟩

structure Notice where
  code : Option Int
  message : Option String
  extra : Fields Value
deriving Inhabited

structure Envelope where
  success : Bool
  result : List QueryResult
  errors : List Notice
  messages : List Notice
deriving Inhabited

def QueryResult.read (v : Value) : Checked QueryResult := do
  let fields ← record v
  let (rows, metadata, success) ←
    both (optional fields "results" [] fun v => do
        let items ← list (orEmpty (.list []) v)
        eachIndexed object items)
      (both (optional fields "meta" [] fun v => object (orEmpty (.object []) v))
        (optional fields "success" none (nullable truth)))
  return { rows, metadata, success, extra := extras fields ["results", "meta", "success"] }

def Notice.read (v : Value) : Checked Notice := do
  let fields ← record v
  let (code, message) ←
    both (optional fields "code" none (nullable whole))
      (optional fields "message" none (nullable text))
  return { code, message, extra := extras fields ["code", "message"] }

def readList {α : Type} (read : Value → Checked α) (v : Value) : Checked (List α) := do
  let items ← list (orEmpty (.list []) v)
  eachIndexed read items

def Envelope.read (v : Value) : Checked Envelope := do
  let fields ← record v
  let (success, result, errors, messages) ←
    both (optional fields "success" false truth)
      (both (optional fields "result" [] (readList QueryResult.read))
        (both (optional fields "errors" [] (readList Notice.read))
          (optional fields "messages" [] (readList Notice.read))))
  return { success, result, errors, messages }

/-- The message of the first error, or a general one when it has none. -/
def Envelope.errorMessage (e : Envelope) : String :=
  match e.errors with
  | first :: _ =>
    match first.message with
    | some message => if message.isEmpty then "Unknown error" else message
    | none => "Unknown error"
  | [] => "Unknown error"

/-- The result set of the first statement, empty when there is none. -/
def Envelope.firstResult (e : Envelope) : QueryResult := e.result.headD QueryResult.empty

def Notice.toValue (n : Notice) : Value :=
  .object (("code", (n.code.map Value.int).getD .null)
    :: ("message", (n.message.map Value.text).getD .null) :: n.extra)

/-- The statement that lists the tables of the remote database. -/
def catalogSql : String := "SELECT name FROM sqlite_master WHERE type = 'table'"

/-- The names in a catalog; rows without a name, or with a falsy one, are skipped. -/
def QueryResult.tableNames (r : QueryResult) : List Value :=
  (r.rows.map fun row => Value.field row "name").filter Value.truthy

end SqlBridge.Remote
