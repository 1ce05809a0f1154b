import SqlBridge.Adapter.Record
import SqlBridge.Registry
import SqlBridge.Sql.Render

/-!
The operations on records. Each one ensures the table of its mapper, sends one statement and returns
the data with the metadata of the statement; an update also reads the record back. Arguments are
checked when the statement is built, so a failing operation may have provisioned its table.
-/

namespace SqlBridge.Adapter

open Sql

def logger : String := "d1_adapter.adapter"

/-- The reply of an operation: the data, and the metadata of its statement. -/
structure Reply where
  data : Value
  metadata : Fields Value

/-- A mapper, or a value that describes one: its name alone or its fields. -/
inductive MapperSource where
  | ready (m : Schema.Mapper)
  | described (v : Value)

def MapperSource.resolve : MapperSource → Outcome Schema.Mapper
  | .ready m => .ok m
  | .described (.text name) => .ok (Schema.Mapper.ofName name)
  | .described v => ofChecked (Schema.Mapper.read v)

/-- A debug record of the operation, dropped unless debugging is on. -/
def debug (enabled : Bool) (message : String) (fields : Fields Value) : Task Unit :=
  if enabled then Task.log (Log.Entry.debug logger message fields) else return ()

/-- The mapper of an operation, after its table has been ensured. -/
def prepare (source : MapperSource) : Task Schema.Mapper := do
  Task.startSeed
  let m ← Task.ofOutcome source.resolve
  Registry.ensureMapper m
  return m

/-- Renders a statement and sends it. -/
def execute (statement : Outcome Statement) : Task Remote.QueryResult := do
  let fragment ← Task.ofOutcome (do
    let statement ← statement
    statement.render)
  Task.request ⟨fragment.text, fragment.params⟩

def compiled (query : Value) : Task Criteria := Task.ofOutcome (Criteria.empty.compile query)

/-- The condition for the record identified by `id`. -/
def identified (m : Schema.Mapper) (id : Value) : Outcome Predicate :=
  Criteria.comparison (.named m.idAttribute) .equal id

/-- A value of the first row, zero when it is missing or falsy. -/
def firstValue (name : String) (rows : List (Fields Value)) : Value :=
  match rows with
  | row :: _ =>
    let v := Value.field row name
    if v.truthy then v else .int 0
  | [] => .int 0

def count (dbg : Bool) (source : MapperSource) (query : Value) : Task Reply := do
  let m ← prepare source
  debug dbg "_count" [("mapper", .text m.name), ("query", query)]
  let criteria ← compiled query
  let result ← execute ((criteria.select .count m.tableName).map .select)
  let n := firstValue "count" result.rows
  debug dbg "_count result" [("count", n)]
  return ⟨n, result.metadata⟩

/-- A record with the id reported by the remote side, if any. -/
def withId (record : Fields Value) (idAttribute : String) (id : Value) : Fields Value :=
  if id.truthy then record.insert idAttribute id else record

def create (dbg : Bool) (source : MapperSource) (props : Value) : Task Reply := do
  let m ← prepare source
  debug dbg "_create" [("mapper", .text m.name), ("props", props)]
  let record ← Task.ofOutcome (newRecord props)
  let result ← execute (.ok (.insertRow m.tableName record.keys (boundRow record record.keys)))
  let id := Value.field result.metadata "last_row_id"
  let record := withId record m.idAttribute id
  debug dbg "_create result" [("id", id), ("props", .object record)]
  return ⟨.object record, result.metadata⟩

/-- Inserts all rows in one statement. Rows with different names are padded with nulls, and the rows
are returned as given, because only the last id is reported. -/
def createMany (dbg : Bool) (source : MapperSource) (rows : Value) : Task Reply := do
  let m ← prepare source
  let n ← Task.ofOutcome (size rows)
  debug dbg "_create_many" [("mapper", .text m.name), ("count", .int n)]
  if rows.truthy then
    let (columns, values) ← Task.ofOutcome (newRows (rows.members?.getD []))
    let result ← execute (.ok (.insert m.tableName columns values))
    debug dbg "_create_many result" [("count", .int n)]
    return ⟨rows, result.metadata⟩
  else return ⟨rows, []⟩

def find (dbg : Bool) (source : MapperSource) (id : Value) : Task Reply := do
  let m ← prepare source
  debug dbg "_find" [("mapper", .text m.name), ("id", id)]
  let result ← execute (do
    let predicate ← identified m id
    return .select ⟨.everything, m.tableName, [predicate], [], ⟨some 1, none⟩⟩)
  let found := result.rows.head?
  debug dbg "_find result" [("found", .bool found.isSome)]
  return ⟨(found.map Value.object).getD .null, result.metadata⟩

def findAll (dbg : Bool) (source : MapperSource) (query : Value) : Task Reply := do
  let m ← prepare source
  debug dbg "_find_all" [("mapper", .text m.name), ("query", query)]
  let criteria ← compiled query
  let result ← execute ((criteria.select .everything m.tableName).map .select)
  debug dbg "_find_all result" [("count", .int result.rows.length)]
  return ⟨.list (result.rows.map .object), result.metadata⟩

/-- Refuses an empty change, which has no statement. -/
def requireChanges (source : MapperSource) (props : Value) : Task Unit :=
  if props.truthy then return ()
  else do
    let m ← Task.ofOutcome source.resolve
    Task.fail (.emptyUpdate m.tableName)

/-- The update of the record identified by `id`. -/
def updateStatement (m : Schema.Mapper) (id props : Value) : Outcome Statement := do
  changeColumns props
  let predicate ← identified m id
  let fields ← changes props
  return .update m.tableName (boundFields fields) (.satisfying [predicate])

/-- Updates a record and reads it back; the metadata is that of the update. -/
def update (dbg : Bool) (source : MapperSource) (id props : Value) : Task Reply := do
  requireChanges source props
  let m ← prepare source
  debug dbg "_update" [("mapper", .text m.name), ("id", id), ("props", props)]
  let result ← execute (updateStatement m id props)
  let record ← find dbg (.ready m) id
  let updated ← Task.ofOutcome (reportsChanges result.metadata)
  debug dbg "_update result" [("updated", .bool updated)]
  return ⟨record.data, result.metadata⟩

/-- The update of all records selected by a query. -/
def updateAllStatement (m : Schema.Mapper) (props query : Value) : Outcome Statement := do
  changeColumns props
  let criteria ← Criteria.empty.compile query
  let fields ← changes props
  let scope ← criteria.scope m.tableName
  return .update m.tableName (boundFields fields) scope

def updateAll (dbg : Bool) (source : MapperSource) (props query : Value) : Task Reply := do
  requireChanges source props
  let m ← prepare source
  debug dbg "_update_all" [("mapper", .text m.name), ("props", props), ("query", query)]
  let result ← execute (updateAllStatement m props query)
  debug dbg "_update_all result" [("changes", Value.field result.metadata "changes")]
  return ⟨.list [], result.metadata⟩

/-- One update for each record, in order. -/
def updateEach (dbg : Bool) (m : Schema.Mapper) : List Value → Task (List Reply)
  | [] => return []
  | record :: rest => do
    let fields ← Task.ofOutcome (changes record)
    let reply ← update dbg (.ready m) (Value.field fields m.idAttribute) record
    let replies ← updateEach dbg m rest
    return reply :: replies

def updateMany (dbg : Bool) (source : MapperSource) (records : Value) : Task Reply := do
  let m ← Task.ofOutcome source.resolve
  let n ← Task.ofOutcome (size records)
  debug dbg "_update_many" [("mapper", .text m.name), ("count", .int n)]
  let replies ← updateEach dbg m (records.members?.getD [])
  debug dbg "_update_many result" [("count", .int replies.length)]
  return ⟨.list (replies.map (·.data)),
    [("updates", .list (replies.map fun r => .object r.metadata))]⟩

def destroy (dbg : Bool) (source : MapperSource) (id : Value) : Task Reply := do
  let m ← prepare source
  debug dbg "_destroy" [("mapper", .text m.name), ("id", id)]
  let result ← execute (do
    let predicate ← identified m id
    return .delete m.tableName (.satisfying [predicate]))
  let deleted ← Task.ofOutcome (reportsChanges result.metadata)
  debug dbg "_destroy result" [("deleted", .bool deleted)]
  return ⟨.null, result.metadata⟩

def destroyAll (dbg : Bool) (source : MapperSource) (query : Value) : Task Reply := do
  let m ← prepare source
  debug dbg "_destroy_all" [("mapper", .text m.name), ("query", query)]
  let criteria ← compiled query
  let result ← execute ((criteria.scope m.tableName).map (.delete m.tableName))
  debug dbg "_destroy_all result" [("changes", Value.field result.metadata "changes")]
  return ⟨.null, result.metadata⟩

def sum (dbg : Bool) (source : MapperSource) (field query : Value) : Task Reply := do
  let m ← prepare source
  debug dbg "_sum" [("mapper", .text m.name), ("field", field), ("query", query)]
  let criteria ← compiled query
  let result ← execute
    ((criteria.select (.sum (ColumnName.ofValue field)) m.tableName).map .select)
  let total := firstValue "sum" result.rows
  debug dbg "_sum result" [("sum", total)]
  return ⟨total, result.metadata⟩

/-- An operation with its arguments before validation. -/
inductive Operation where
  | count (query : Value)
  | create (props : Value)
  | createMany (rows : Value)
  | find (id : Value)
  | findAll (query : Value)
  | update (id props : Value)
  | updateAll (props query : Value)
  | updateMany (records : Value)
  | destroy (id : Value)
  | destroyAll (query : Value)
  | sum (field query : Value)

namespace Operation

/-- The name of an operation in responses. -/
def name : Operation → String
  | count _ => "count"
  | create _ => "create"
  | createMany _ => "createMany"
  | find _ => "find"
  | findAll _ => "findAll"
  | update _ _ => "update"
  | updateAll _ _ => "updateAll"
  | updateMany _ => "updateMany"
  | destroy _ => "destroy"
  | destroyAll _ => "destroyAll"
  | sum _ _ => "sum"

def task (dbg : Bool) (source : MapperSource) : Operation → Task Reply
  | count query => Adapter.count dbg source query
  | create props => Adapter.create dbg source props
  | createMany rows => Adapter.createMany dbg source rows
  | find id => Adapter.find dbg source id
  | findAll query => Adapter.findAll dbg source query
  | update id props => Adapter.update dbg source id props
  | updateAll props query => Adapter.updateAll dbg source props query
  | updateMany records => Adapter.updateMany dbg source records
  | destroy id => Adapter.destroy dbg source id
  | destroyAll query => Adapter.destroyAll dbg source query
  | sum field query => Adapter.sum dbg source field query

end Operation

end SqlBridge.Adapter
