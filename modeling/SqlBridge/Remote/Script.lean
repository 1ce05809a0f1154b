import SqlBridge.Task

/-!
A scripted remote side: a catalog, and a queue of replies for the other statements. A provisioning
statement takes the head of the queue only when that is a failure.
-/

namespace SqlBridge

namespace Remote

/-- An error raised by the remote side, as a function of the text of the statement. -/
abbrev RemoteError := String → Failure

inductive Reply where
  | failure (make : RemoteError)
  | result (v : Value)

structure Script where
  catalog : List Value
  catalogError : Option RemoteError
  replies : List Reply

def Reply.isFailure : Reply → Bool
  | .failure _ => true
  | .result _ => false

def Reply.outcome (sql : String) : Reply → Outcome QueryResult
  | .failure make => .error (make sql)
  | .result v => ofChecked (QueryResult.read v)

def catalogRow : Value → Value
  | .text name => .object [("name", .text name)]
  | v => v

def Script.catalogResult (s : Script) (sql : String) : Outcome QueryResult :=
  match s.catalogError with
  | some make => .error (make sql)
  | none => ofChecked (QueryResult.read (.object [("results", .list (s.catalog.map catalogRow))]))

def isProvisioning (sql : String) : Bool := "CREATE TABLE".toList.isPrefixOf sql.toList

def Script.answer : Executor Script := fun call s =>
  if call.sql = catalogSql then (s.catalogResult call.sql, s)
  else
    match s.replies with
    | [] => (.ok QueryResult.empty, s)
    | reply :: rest =>
      if isProvisioning call.sql && !reply.isFailure then (.ok QueryResult.empty, s)
      else (reply.outcome call.sql, { s with replies := rest })

abbrev ScriptedWorld := World Script

end Remote

open Remote

/-- A world before its next step, without recorded calls and log records. -/
def World.fresh {σ : Type} (w : World σ) (remote : σ) : World σ :=
  { w with calls := [], log := [], remote }

/-- A scripted world before a step with the replies of that step. -/
def World.prepare (w : ScriptedWorld) (replies : List Reply) : ScriptedWorld :=
  w.fresh { w.remote with replies }

end SqlBridge
