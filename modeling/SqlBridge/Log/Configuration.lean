import SqlBridge.Log.Format

/-!
The configuration of the log. A record is written by the handlers of the root logger when it passes
the level of its logger and of the handler. A successful configuration sets the level of two
loggers, and of the loggers below them, to warnings.
-/

namespace SqlBridge.Log

inductive Form where
  | console
  | document

/-- A handler writes records of at least its level, or drops all. -/
inductive Handler where
  | writer (level : Value) (form : Form)
  | silent

structure Configuration where
  rootLevel : Value
  handlers : List Handler
  quiet : Bool

def Configuration.initial : Configuration := ⟨.int warningLevel, [], false⟩

def levelNames : List (String × Int) :=
  [("CRITICAL", 50), ("FATAL", 50), ("ERROR", 40), ("WARN", 30), ("WARNING", 30), ("INFO", 20),
   ("DEBUG", 10), ("NOTSET", 0)]

/-- A level given by name or number; null keeps the current level. -/
def readLevel : Value → Outcome (Option Value)
  | .null => .ok none
  | .text name =>
    match levelNames.lookup name with
    | some n => .ok (some (.int n))
    | none => .error (.value .unknownLevel)
  | .int n => .ok (some (.int n))
  | .bool b => .ok (some (.bool b))
  | _ => .error (.value .unknownLevel)

def levelNumber : Value → Int
  | .int n => n
  | .bool b => if b then 1 else 0
  | _ => 0

/-- Replaces the handlers by one writer. Without `force` an existing handler is kept and nothing
changes. -/
def Configuration.configure (c : Configuration) (level : Value) (document force : Bool) :
    Outcome Configuration :=
  if !force && !c.handlers.isEmpty then .ok c
  else do
    let level ← readLevel level
    let form := if document then Form.document else Form.console
    return ⟨level.getD c.rootLevel, [.writer (level.getD (.int 0)) form], true⟩

def quietLoggers : List String := ["httpx", "httpcore"]

/-- Whether a logger is one of the two quiet ones or below one. -/
def isQuiet (logger : String) : Bool :=
  quietLoggers.any fun name => logger = name || (name ++ ".").toList.isPrefixOf logger.toList

def Configuration.quietLevel (c : Configuration) : Int := if c.quiet then warningLevel else 0

/-- The least level of the records of a logger that are written. -/
def Configuration.levelOf (c : Configuration) (logger : String) : Int :=
  if c.quiet && isQuiet logger then warningLevel else levelNumber c.rootLevel

def Configuration.isEnabled (c : Configuration) (logger : String) (level : Int) : Bool :=
  0 < level && c.levelOf logger ≤ level

/-- The first field with a name reserved for records. -/
def reservedField? (fields : Fields Value) : Option String :=
  fields.keys.find? fun name =>
    name = "message" || name = "asctime" || standardAttributes.contains name

def Form.text (time : String) (r : Record) : Form → Outcome String
  | .console => r.consoleText time
  | .document => r.documentText

/-- The text that a handler writes for a record; a record without text is dropped. -/
def Handler.write (time : String) (e : Entry) : Handler → String
  | .silent => ""
  | .writer level form =>
    if e.level < levelNumber level then ""
    else
      match form.text time (Record.ofEntry e) with
      | .ok text => text ++ "\n"
      | .error _ => ""

/-- The text written for a record. Without handlers only warnings and errors are written, as bare
messages. -/
def Configuration.write (c : Configuration) (time : String) (e : Entry) : Outcome String :=
  if c.isEnabled e.logger e.level then
    match reservedField? e.fields with
    | some name => .error (.reservedName name)
    | none =>
      if c.handlers.isEmpty then
        .ok (if warningLevel ≤ e.level then e.message ++ "\n" else "")
      else .ok (String.join (c.handlers.map (Handler.write time e)))
  else .ok ""

/-- The actions on a configuration: configuring it, adding a handler that drops all, and writing a
record. -/
inductive Action where
  | configure (level : Value) (document force : Bool)
  | silence
  | log (e : Entry)

/-- The text that an action writes, and the configuration after it. -/
def Action.run (time : String) (action : Action) (c : Configuration) :
    Outcome String × Configuration :=
  match action with
  | .configure level document force =>
    match c.configure level document force with
    | .ok c => (.ok "", c)
    | .error f => (.error f, c)
  | .silence => (.ok "", { c with handlers := c.handlers ++ [.silent] })
  | .log e => (c.write time e, c)

def runAll (time : String) : List Action → Configuration → List (Outcome String × Configuration)
  | [], _ => []
  | action :: rest, c =>
    let (o, c) := action.run time c
    (o, c) :: runAll time rest c

end SqlBridge.Log
