import SqlBridge.CommandLine.Execution

/-!
The command line as a program. Settings are read from the environment and from the file `.env`.
Every request is written to standard output as one line, and its reply is read from standard input
as one line.
-/

namespace SqlBridge.Main

open CommandLine Remote

def settingNames : List String :=
  ["D1_ACCOUNT_ID", "D1_DATABASE_ID", "D1_API_TOKEN", "D1_API_BASE_URL", "D1_HTTP_TIMEOUT_SECONDS",
   "D1_AUTOCREATE_TABLES", "D1_DEBUG", "D1_RAW", "APP_ENV", "LOG_LEVEL", "LOG_JSON"]

def readEnvironment : IO (List (String × String)) :=
  settingNames.filterMapM fun name => do
    let value ← IO.getEnv name
    return value.map (name, ·)

def locate (path : String) : IO Located := do
  try
    let text ← IO.FS.readFile path
    return .file text
  catch
    | .noFileOrDirectory _ _ _ => return .nothing
    | _ => return .directory

/-- The words of a command line and the values attached to them, any of which may be a path. -/
def pathsIn (words : List String) : List String :=
  words ++ words.map fun word => "=".intercalate ((word.splitOn "=").drop 1)

def locateAll (paths : List String) : IO (String → Located) := do
  let found ← paths.mapM fun path => do
    let located ← locate path
    return (path, located)
  return fun path => (found.lookup path).getD .nothing

def screenWidth : IO Nat := do
  let columns ← IO.getEnv "COLUMNS"
  return (columns.bind String.toNat?).getD 80

def requestLine (r : HttpRequest) : String :=
  Document.compact (.object
    [("url", .text r.url), ("authorization", .text r.authorization), ("body", r.body)])

def exchange (r : HttpRequest) : IO HttpReply := do
  let output ← IO.getStdout
  output.putStrLn (requestLine r)
  output.flush
  let reply ← (← IO.getStdin).getLine
  return if reply.isEmpty then .fault (.transport .connection "No reply") else .response 200 reply

/-- Repeats a run with growing lists of replies. While it sends more requests than there are
replies, the next request is exchanged for a reply. -/
partial def converse (run : Wire → RunResult) (replies : List HttpReply) : IO Ending := do
  let ran := run (Wire.ofReplies replies)
  match ran.wire.requests.drop replies.length with
  | [] => return ran.ending
  | request :: _ =>
    let reply ← exchange request
    converse run (replies ++ [reply])

/-- The line that reports a failure which leaves the program. -/
def complaint (f : Failure) : String :=
  line (match f.message with
    | some message => f.label ++ ": " ++ message
    | none => f.label)

def exitCode : Failure → UInt32
  | .command _ => 2
  | _ => 1

def finish (e : Ending) : IO UInt32 := do
  (← IO.getStdout).putStr e.output
  (← IO.getStderr).putStr e.errors
  match e.result with
  | .ok code => return code.toUInt32
  | .error f => return exitCode f

def runWords (words : List String) : IO UInt32 := do
  let environment ← readEnvironment
  let file ← match ← locate ".env" with
    | .file text => pure (Settings.readDotenv text)
    | _ => pure []
  let files ← locateAll (pathsIn words)
  let host : Host := ⟨← screenWidth, files, portFault?, fun _ => complaint⟩
  let settings := ofChecked (Settings.read ⟨[], environment, file⟩)
  finish (← converse (CommandLine.run host settings words) [])

end SqlBridge.Main

def main (words : List String) : IO UInt32 := SqlBridge.Main.runWords words
