import SqlBridge.CommandLine.Arguments

/-!
The commands and their words. Unknown commands and options are refused before the settings are read,
faults in the words of a command after that.
-/

namespace SqlBridge.CommandLine

inductive Command where
  | info
  | tables
  | query (sql : String) (params : List String) (asDocument : Bool)
  | findAll (table : String) (query : Option String) (asDocument : Bool)
  | count (table : String) (query : Option String)
  | createTable (table schema idAttribute : String)

/-- The entry at a path. -/
inductive Located where
  | nothing
  | directory
  | file (text : String)

def commandNames : List String := ["info", "tables", "query", "find-all", "count", "create-table"]

/-- The options before a command. -/
def leadingOptions : List OptionForm :=
  [⟨"--install-completion", none, false⟩, ⟨"--show-completion", none, false⟩, helpOption]

def paramOption : OptionForm := ⟨"--param", some 'p', true⟩

def queryOption : OptionForm := ⟨"--query", some 'q', true⟩

def documentOption : OptionForm := ⟨"--json", none, false⟩

def schemaOption : OptionForm := ⟨"--schema", none, true⟩

def idOption : OptionForm := ⟨"--id-attribute", none, true⟩

def optionsOf (command : String) : List OptionForm :=
  (match command with
    | "query" => [paramOption, documentOption]
    | "find-all" => [queryOption, documentOption]
    | "count" => [queryOption]
    | "create-table" => [schemaOption, idOption]
    | _ => []) ++ [helpOption]

/-- A parsed command line: a command with its words, or help. -/
inductive Invocation where
  | help
  | command (name : String) (words : List String)

/-- Finds the command. A name with the form of an option is checked as an option first. -/
def Invocation.read (words : List String) : Outcome Invocation := do
  let leading ← Words.read leadingOptions false words
  if !leading.flags.isEmpty then return .help
  else
    match leading.arguments with
    | [] => .error (.command .missingCommand)
    | name :: rest =>
      if commandNames.contains name then return .command name rest
      else
        let again ← Words.read leadingOptions false leading.arguments
        if !again.flags.isEmpty then return .help
        else .error (.command (.unknownCommand name (similarNames name commandNames)))

/-- The text of the file that an option names. -/
def readFile (files : String → Located) (option path : String) : Outcome String :=
  match files path with
  | .nothing => .error (.command (.noFile option path))
  | .directory => .error (.command (.noPlainFile option path))
  | .file text => .ok text

/-- The provisioning command. A named file is looked up first. -/
def readCreateTable (files : String → Located) (w : Words) : Outcome Command := do
  let given ← match w.value? schemaOption.name with
    | some path => (readFile files schemaOption.name path).map some
    | none => .ok none
  let table ← w.argument "table"
  match given with
  | some schema => return .createTable table schema ((w.value? idOption.name).getD "_id")
  | none => .error (.command (.missingOption schemaOption.name))

def readWords (files : String → Located) (name : String) (w : Words) : Outcome Command :=
  match name with
  | "info" => .ok .info
  | "tables" => .ok .tables
  | "query" => do
    let sql ← w.argument "sql"
    return .query sql (w.valuesOf paramOption.name) (w.hasFlag documentOption.name)
  | "find-all" => do
    let table ← w.argument "table"
    return .findAll table (w.value? queryOption.name) (w.hasFlag documentOption.name)
  | "count" => do
    let table ← w.argument "table"
    return .count table (w.value? queryOption.name)
  | _ => readCreateTable files w

def Command.argumentCount : Command → Nat
  | .info => 0
  | .tables => 0
  | _ => 1

/-- Parses the words of a command; there is no command when they ask for help. -/
def Command.read (files : String → Located) (name : String) (words : List String) :
    Outcome (Option Command) := do
  let w ← Words.read (optionsOf name) true words
  if w.hasFlag helpOption.name then return none
  else
    let command ← readWords files name w
    w.noMoreThan command.argumentCount
    return some command

end SqlBridge.CommandLine
