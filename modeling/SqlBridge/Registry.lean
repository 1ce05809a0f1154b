import SqlBridge.Schema.Table
import SqlBridge.Task

/-!
The registry of tables. A name is added when the remote catalog lists it or when its provisioning
statement has succeeded, and is never removed. There are no locks: two tasks that miss the same
table may both send its statement, which is idempotent.
-/

namespace SqlBridge.Registry

def logger : String := "d1_adapter.infrastructure.registry"

def tableEntry (message table : String) (more : Fields Value) : Log.Entry :=
  Log.Entry.debug logger message (("table", .text table) :: more)

/-- The names before the first one without a key, and whether there is no such name. -/
def learnable (names : List Value) : List Value × Bool :=
  let good := names.takeWhile fun v => v.key?.isSome
  (good, good.length = names.length)

def unhashable : Value → String
  | .list _ => "unhashable type: 'list'"
  | .object _ => "unhashable type: 'dict'"
  | _ => ""

/-- Reads the remote catalog into the registry and returns the number of names. -/
def seed : Task Nat := do
  let result ← Task.request ⟨Remote.catalogSql, []⟩
  let names := result.tableNames
  let (good, complete) := learnable names
  Task.remember good
  if complete then
    Task.log (Log.Entry.debug logger "Table cache seeded" [("tables", .list names)])
    return names.length
  else Task.fail (.wrongType (unhashable ((names.drop good.length).headD .null)))

/-- Ensures that a table exists remotely. An unknown one is provisioned by the statement `ddl`
unless provisioning is off. -/
def ensure (ddl : Validation.Checked String) (table : String) : Task Unit := do
  let registry ← Task.registry
  if registry.known.contains (.text table) then return ()
  else if registry.autocreate then do
    Task.log (tableEntry "Creating table" table [])
    let sql ← Task.ofOutcome (ofChecked ddl)
    let _ ← Task.request ⟨sql, []⟩
    Task.log (tableEntry "Table created" table [("sql", .text sql)])
    Task.remember [.text table]
  else do
    Task.log (tableEntry "Table does not exist" table [])
    Task.fail (.tableNotFound table)

def ensureMapper (m : Schema.Mapper) : Task Unit := ensure m.createTable m.tableName

/-- The requests to a registry. Declarations are validated one by one before the table is looked up,
or only when its statement is rendered. -/
inductive Request where
  | ensureTable (idAttribute : String) (properties : Fields Value) (table : String)
      (validate : Bool)
  | ensureMapper (mapper : Value)
  | seed
  | add (table : String)
  | contains (table : String)

def Request.task : Request → Task Value
  | .ensureTable idAttribute properties table validate => do
    if validate then
      let fields ← Task.ofOutcome (ofChecked (Schema.readEach Schema.Field.read properties))
      ensure (Schema.createTable idAttribute fields table) table
    else ensure (Schema.createTableOfValues idAttribute properties table) table
    return .null
  | .ensureMapper mapper => do
    let m ← Task.ofOutcome (ofChecked (Schema.Mapper.read mapper))
    Registry.ensureMapper m
    return .null
  | .seed => do
    let count ← Registry.seed
    return .int count
  | .add table => do
    Task.remember [.text table]
    return .null
  | .contains table => do
    let registry ← Task.registry
    return .bool (registry.known.contains (.text table))

end SqlBridge.Registry
