import SqlBridge.Adapter.Session
import SqlBridge.CommandLine.Command
import SqlBridge.Log.Configuration
import SqlBridge.Remote.Client
import SqlBridge.Report

/-!
The execution of commands. A run reads its settings and configures its log before it parses the
words of a command. Commands that read records never provision a table: they read the catalog, and a
table that it does not list is not found. Failures of the adapter are printed as one line; other
failures leave the program.
-/

namespace SqlBridge.CommandLine

open Remote

/-- A parameter of a command line: a document if it can be read as one, the text otherwise. -/
def readParam (s : String) : Value :=
  match Document.read s with
  | .ok v => v
  | .error _ => .text s

/-- An object given as a document; no text stands for the empty object. -/
def readObject (option text : String) : Outcome (Fields Value) :=
  if text.isEmpty then .ok []
  else
    match Document.read text with
    | .ok (.object fields) => .ok fields
    | .ok _ => .error (.command (.noObject option))
    | .error fault => .error (.command (.unreadable option (fault.message text.toList)))

/-- The output of a command so far, and its outcome. -/
structure Progress where
  output : String
  outcome : Outcome Unit

namespace Progress

def print (text : String) : Progress := ⟨text, .ok ()⟩

def fail (f : Failure) : Progress := ⟨"", .error f⟩

def ofOutcome : Outcome String → Progress
  | .ok text => print text
  | .error f => fail f

/-- Continues with `q` unless `p` has failed. -/
def andThen (p q : Progress) : Progress :=
  match p.outcome with
  | .ok _ => ⟨p.output ++ q.output, q.outcome⟩
  | .error _ => p

end Progress

def line (text : String) : String := text ++ "\n"

def flagText (b : Bool) : String := if b then "True" else "False"

/-- The first characters of a token, or a word for a missing one. -/
def tokenHint (token : String) : String :=
  if token.isEmpty then "<unset>" else String.ofList (token.toList.take 4) ++ "…"

def settingsLine (s : Settings) : String :=
  "URL=" ++ s.databaseUrl ++ " | token=" ++ tokenHint s.apiToken ++ " | autocreate="
    ++ flagText s.autocreateTables ++ " debug=" ++ flagText s.debug ++ " raw=" ++ flagText s.raw
    ++ " timeout=" ++ s.timeoutSeconds.text ++ "s env=" ++ s.environment

/-- Rows and their metadata, as two tables. -/
def printTables (screen : Nat) (title : String) (rows : Value) (metadata : Fields Value) :
    Progress :=
  let table := do
    let rows ← Report.readRows rows
    Report.printRows screen title rows
  (Progress.ofOutcome table).andThen (.ofOutcome (Report.printFigures screen metadata))

def printDocument (v : Value) : Progress := .print (line (Document.indented v))

/-- A finite number as a fraction. -/
def amount? : Value → Option (Int × Nat)
  | .bool b => some (if b then 1 else 0, 1)
  | .int n => some (n, 1)
  | .double x =>
    match x.read with
    | .finite negative m e =>
      let (num, den) := Decimal.Double.ratio m e
      some (Decimal.Double.signed negative num, den)
    | _ => none
  | _ => none

/-- Whether names can be sorted: all are texts, or all are numbers. -/
def areComparable : List Value → Bool
  | [] => true
  | [_] => true
  | names => names.all Value.isText || names.all fun v => (amount? v).isSome

/-- The order of names: by their characters, or by their amounts. -/
def precedes (a b : Value) : Bool :=
  match a, b with
  | .text s, .text t => s ≤ t
  | a, b =>
    match amount? a, amount? b with
    | some (n, d), some (m, e) => n * e ≤ m * d
    | _, _ => true

def sortNames (names : List Value) : Outcome (List Value) :=
  if areComparable names then .ok (names.mergeSort precedes) else .error (.wrongType "")

def printNames (o : Outcome (List Value)) : Progress :=
  match o.bind sortNames with
  | .ok names => .print (String.join (names.map fun name => line name.shown))
  | .error f => .fail f

def printResult (screen : Nat) (sql : String) (asDocument : Bool) : Outcome QueryResult → Progress
  | .error f => .fail f
  | .ok r =>
    let rows := Value.list (r.rows.map .object)
    if asDocument then
      printDocument (.object [("results", rows), ("meta", .object r.metadata)])
    else printTables screen sql rows r.metadata

/-- Runs an operation that reads records, after reading the catalog. -/
def readRecords (client : Client) (debug : Bool) (operation : Adapter.Operation) (table : String)
    (w : Wire) : Outcome Adapter.Reply × World Wire :=
  let mapper : Schema.Mapper := { Schema.Mapper.ofName table with table := some table }
  match Adapter.waitSeeded client.executor (Adapter.newWorld w false true []) with
  | (.error f, world) => (.error f, world)
  | (.ok _, world) => (operation.task debug (.ready mapper)).run client.executor world

def printFound (screen : Nat) (table : String) (asDocument : Bool) :
    Outcome Adapter.Reply → Progress
  | .error f => .fail f
  | .ok r =>
    if asDocument then printDocument r.data else printTables screen table r.data r.metadata

def printCount : Outcome Adapter.Reply → Progress
  | .error f => .fail f
  | .ok r => .print (line r.data.shown)

/-- The declaration in a schema document: its properties, or the document itself. -/
def declaredIn (document : Fields Value) : Outcome (Fields Value) :=
  match document.get? "properties" with
  | none => .ok document
  | some (.object properties) => .ok properties
  | some _ => .error .noMember

/-- Text with every end of line written as one line feed. -/
def withLineFeeds : List Char → List Char
  | [] => []
  | '\r' :: '\n' :: rest => '\n' :: withLineFeeds rest
  | c :: rest => (if c = '\r' then '\n' else c) :: withLineFeeds rest

/-- The provisioning statement of a schema document. -/
def provisioning (table schema idAttribute : String) : Outcome String := do
  let document ← readObject schemaOption.name (String.ofList (withLineFeeds schema.toList))
  let properties ← declaredIn document
  ofChecked (do
    let fields ← Schema.readEach Schema.readLoosely properties
    Schema.createTable idAttribute fields table)

/-- The environment of a program: the width of its screen, its files, the URL check of the HTTP
library, and the report of the command line library on a failure that leaves the program. The report
may show local variables, so it depends on the settings, which are absent until they are read. -/
structure Host where
  screen : Nat
  files : String → Located
  addressFault? : String → Option String
  report : Option Settings → Failure → String

/-- The output and outcome of a command, the records of its adapter, and the wire. -/
abbrev Effect := Progress × List Log.Entry × Wire

/-- Builds the client of a command and continues with it. -/
def withClient (host : Host) (s : Settings) (w : Wire) (k : Client → Effect) : Effect :=
  match Client.ofSettings host.addressFault? s with
  | .error f => (.fail f, [], w)
  | .ok client => k client

def Command.execute (host : Host) (s : Settings) (c : Command) (w : Wire) : Effect :=
  match c with
  | .info => (.print (line (settingsLine s)), [], w)
  | .tables =>
    withClient host s w fun client =>
      let (o, w) := client.listTables w
      (printNames o, [], w)
  | .query sql params asDocument =>
    withClient host s w fun client =>
      let (o, w) := client.executeSql sql (params.map readParam) w
      (printResult host.screen sql asDocument o, [], w)
  | .findAll table filter asDocument =>
    match readObject queryOption.name (filter.getD "") with
    | .error f => (.fail f, [], w)
    | .ok fields =>
      withClient host s w fun client =>
        let (o, world) := readRecords client s.debug (.findAll (.object fields)) table w
        (printFound host.screen table asDocument o, world.log, world.remote)
  | .count table filter =>
    match readObject queryOption.name (filter.getD "") with
    | .error f => (.fail f, [], w)
    | .ok fields =>
      withClient host s w fun client =>
        let (o, world) := readRecords client s.debug (.count (.object fields)) table w
        (printCount o, world.log, world.remote)
  | .createTable table schema idAttribute =>
    match provisioning table schema idAttribute with
    | .error f => (.fail f, [], w)
    | .ok sql =>
      withClient host s w fun client =>
        let (o, w) := client.executeSql sql [] w
        (.ofOutcome (o.map fun _ => line sql), [], w)

/-- Parses the words of a command and executes it. With help there is nothing to execute. -/
def executeWords (host : Host) (s : Settings) (name : String) (words : List String) (w : Wire) :
    Effect :=
  match Command.read host.files name words with
  | .error f => (.fail f, [], w)
  | .ok none => (.print "", [], w)
  | .ok (some command) => command.execute host s w

/-- The ending of a program: an exit code, or a failure that leaves it, with both outputs. -/
structure Ending where
  output : String
  errors : String
  result : Except Failure Nat

def Progress.ending (report : Failure → String) (p : Progress) : Ending :=
  match p.outcome with
  | .ok _ => ⟨p.output, "", .ok 0⟩
  | .error .interrupted => ⟨p.output, "", .ok 130⟩
  | .error f =>
    if f.isReported then ⟨p.output, line ("Error: " ++ f.message.getD ""), .ok 1⟩
    else ⟨p.output, report f, .error f⟩

/-- A run of the program: its ending, the configuration of its log, the records of its adapter, and
the wire with the records of the client. -/
structure RunResult where
  ending : Ending
  configuration : Log.Configuration
  log : List Log.Entry
  wire : Wire

def RunResult.ofEffect (host : Host) (settings : Option Settings)
    (configuration : Log.Configuration) (e : Effect) : RunResult :=
  ⟨e.1.ending (host.report settings), configuration, e.2.1, e.2.2⟩

/-- A run that ends before its log is configured. -/
def RunResult.early (host : Host) (settings : Option Settings) (p : Progress) (w : Wire) :
    RunResult :=
  .ofEffect host settings .initial (p, [], w)

/-- The texts that the log of a run writes for its records at a time. -/
def RunResult.logTexts (r : RunResult) (time : String) : List (Outcome String) :=
  (r.log ++ r.wire.log).map (r.configuration.write time)

/-- The settings, and the log configuration made from them. -/
def setUp (settings : Outcome Settings) : Outcome (Settings × Log.Configuration) := do
  let s ← settings
  let configuration ← Log.Configuration.initial.configure (.text s.logLevel) s.logJson true
  return (s, configuration)

/-- Runs a command line. -/
def run (host : Host) (settings : Outcome Settings) (words : List String) (w : Wire) :
    RunResult :=
  match Invocation.read words with
  | .error f => .early host none (.fail f) w
  | .ok .help => .early host none (.print "") w
  | .ok (.command name words) =>
    match setUp settings with
    | .error f => .early host settings.toOption (.fail f) w
    | .ok (s, configuration) =>
      .ofEffect host (some s) configuration (executeWords host s name words w)

end SqlBridge.CommandLine
