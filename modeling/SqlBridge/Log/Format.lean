import SqlBridge.Document.Writer
import SqlBridge.Log.Entry
import SqlBridge.Log.Template

/-!
Log records as text. The document form is one object on one line: level, logger and message, then
the promoted attributes, then the fields of a nested `extra`, then exception and stack; later fields
overwrite earlier ones. The console form is one line of plain text. A record with a whole number
beyond the digit limit has no text.
-/

namespace SqlBridge.Log

/-- A record with all attributes that its text can show. -/
structure Record where
  logger : Value
  level : Value
  template : Value
  arguments : Option Arguments
  promoted : Fields Value
  nested : Value
  exception : Option String
  stack : Value

/-- The attributes of every record; they are never promoted. -/
def standardAttributes : List String :=
  ["name", "msg", "args", "levelname", "levelno", "pathname", "filename", "module", "exc_info",
   "exc_text", "stack_info", "lineno", "funcName", "created", "msecs", "relativeCreated", "thread",
   "threadName", "processName", "process"]

/-- Attributes that formatting sets. -/
def formattedAttributes : List String := ["message", "asctime", "taskName"]

/-- The arguments of a log call: a single non-empty object gives named arguments. -/
def argumentsOf (v : Value) : Option Arguments :=
  match v with
  | .list [] => none
  | .list [.object (field :: fields)] => some (.named (field :: fields))
  | .list items => some (.sequence items)
  | .object (field :: fields) => some (.named (field :: fields))
  | _ => none

/-- The arguments held by an attribute: an object gives named arguments, any other value a single
one. -/
def attributeArguments (v : Value) : Option Arguments :=
  match v with
  | .object [] => none
  | .object fields => some (.named fields)
  | v => if v.truthy then some (.single v) else none

/-- Sets an attribute of a record. Of the standard attributes only those shown in the text are
overwritten; any other name is promoted. -/
def Record.set (r : Record) (name : String) (v : Value) : Record :=
  if name = "name" then { r with logger := v }
  else if name = "levelname" then { r with level := v }
  else if name = "msg" then { r with template := v }
  else if name = "args" then { r with arguments := attributeArguments v }
  else if name = "stack_info" then { r with stack := v }
  else if name = "extra" then { r with nested := v }
  else if standardAttributes.contains name || formattedAttributes.contains name then r
  else { r with promoted := r.promoted.insert name v }

def Record.setAll (r : Record) (fields : Fields Value) : Record :=
  fields.foldl (fun r (name, v) => r.set name v) r

/-- The message with its arguments filled in. Without arguments it is not a template. -/
def Record.message (r : Record) : Outcome String := do
  checkShown r.template
  match r.arguments with
  | none => return r.template.shown
  | some arguments => fill r.template.shown arguments

/-- The record as one object. -/
def Record.payload (r : Record) : Outcome (Fields Value) := do
  let message ← r.message
  let head : Fields Value :=
    [("level", r.level), ("logger", r.logger), ("message", .text message)]
  let fields := head.merge r.promoted
  let fields := match r.nested with
    | .object nested => fields.merge nested
    | _ => fields
  let fields := match r.exception with
    | some text => fields.insert "exc_info" (.text text)
    | none => fields
  return if r.stack.truthy then fields.insert "stack_info" r.stack else fields

/-- The document form. -/
def Record.documentText (r : Record) : Outcome String := do
  let payload ← r.payload
  checkShown (.object payload)
  return Document.compact (.object payload)

/-- The console form after a time stamp. -/
def Record.consoleText (time : String) (r : Record) : Outcome String := do
  let message ← r.message
  checkShown r.level
  checkShown r.logger
  return time ++ " | " ++ r.level.shown ++ " | " ++ r.logger.shown ++ " | " ++ message

def Record.ofEntry (e : Entry) : Record :=
  Record.setAll
    ⟨.text e.logger, .text (levelName e.level), .text e.message, none, [], .null, none, .null⟩
    e.fields

/-- The kinds of exceptions shown with their module. -/
def qualifiedKinds : List (String × String) :=
  [("AdapterError", "d1_adapter.errors."), ("RemoteSQLError", "d1_adapter.errors."),
   ("TableNotFoundError", "d1_adapter.errors."), ("ConnectError", "httpx."),
   ("ReadTimeout", "httpx."), ("CancelledError", "asyncio.exceptions.")]

/-- An exception as text: its kind and, unless it is empty, its message. A missing key is quoted. -/
def exceptionText (kind message : String) : String :=
  let name := (qualifiedKinds.lookup kind).getD "" ++ kind
  let message :=
    if kind = "KeyError" then Text.quoted message
    else if kind = "TableNotFoundError" then "Table " ++ message ++ " not found"
    else message
  if message.isEmpty then name else name ++ ": " ++ message

end SqlBridge.Log
