import SqlBridge.Remote.Address
import SqlBridge.Settings
import SqlBridge.Task

/-!
The client of the remote query service. Every statement is sent as one request with a JSON body.
Success is determined by the envelope of the response only: the status code is logged and not
interpreted. Failures of the transport are raised unchanged.
-/

namespace SqlBridge.Remote

structure HttpRequest where
  url : String
  authorization : String
  body : Value
deriving Inhabited

/-- The outcome of a request at the transport: a response, or a failure. -/
inductive HttpReply where
  | response (status : Int) (body : String)
  | fault (f : Failure)

structure Client where
  baseUrl : String
  token : String
  isOpen : Bool

/-- A scripted transport: the remaining replies, the requests sent, and the log. After the last
reply every request succeeds without a result. -/
structure Wire where
  replies : List HttpReply
  requests : List HttpRequest
  log : List Log.Entry

namespace Wire

def ofReplies (replies : List HttpReply) : Wire := ⟨replies, [], []⟩

def emptySuccess : HttpReply :=
  .response 200 "\x7b\"success\": true, \"result\": [], \"errors\": [], \"messages\": []\x7d"

def note (w : Wire) (e : Log.Entry) : Wire := { w with log := w.log ++ [e] }

/-- Sends a request and takes the next reply. -/
def send (w : Wire) (request : HttpRequest) : HttpReply × Wire :=
  let sent := w.requests ++ [request]
  match w.replies with
  | reply :: rest => (reply, { w with replies := rest, requests := sent })
  | [] => (emptySuccess, { w with requests := sent })

end Wire

namespace Client

def authorization (token : String) : String := "Bearer " ++ token

/-- The failure of a header value with a character outside ASCII, for the first run of such
characters. -/
def nonAscii? (header : String) : Option Failure :=
  let before := header.toList.takeWhile Text.isAscii
  match header.toList.dropWhile Text.isAscii with
  | [] => none
  | c :: rest =>
    let count := (rest.takeWhile fun c => !Text.isAscii c).length
    some (.nonAsciiToken before.length (before.length + count) c)

def logger : String := "d1_adapter.infrastructure.client"

/-- An open client. The address is refused with the message of `check`, the URL check of the HTTP
library, and a token must be ASCII to be sent in a header. -/
def ofAddress (check : String → Option String) (baseUrl token : String) : Outcome Client :=
  let baseUrl := Settings.dropLastSlashes baseUrl
  match check baseUrl with
  | some message => .error (.invalidAddress message)
  | none =>
    match nonAscii? (authorization token) with
    | some f => .error f
    | none => .ok ⟨baseUrl, token, true⟩

def ofSettings (check : String → Option String) (s : Settings) : Outcome Client :=
  ofAddress check s.databaseUrl s.apiToken

def close (c : Client) : Client := { c with isOpen := false }

def entry (message : String) (fields : Fields Value) : Log.Entry :=
  Log.Entry.debug logger message fields

/-- The request for a payload. The payload is encoded first, as strict document text; then the
client must be open. -/
def request (c : Client) (path : String) (payload : Value) : Outcome HttpRequest :=
  match Document.writeFault? true payload with
  | some fault => .error (.value (.unwritable fault))
  | none =>
    if c.isOpen then .ok ⟨addressOf c.baseUrl path, authorization c.token, payload⟩
    else .error .closed

/-- The decoded body of a reply with its status. -/
def decode : HttpReply → Outcome (Int × Value)
  | .fault f => .error f
  | .response status body =>
    match Document.readBody body with
    | .ok v => .ok (status, v)
    | .error fault => .error (.unreadable fault (Document.bodyText body))

/-- Sends a payload to a path and decodes the reply. -/
def exchange (c : Client) (path : String) (payload : Value) (w : Wire) :
    Outcome (Int × Value) × Wire :=
  match c.request path payload with
  | .error f => (.error f, w)
  | .ok request =>
    let (reply, w) := w.send request
    (decode reply, w)

def requestEntry (url : String) (payload : Value) : Log.Entry :=
  entry "HTTP request"
    [("url", .text url), ("method", .text "POST"), ("has_body", .bool payload.truthy)]

/-- The record of a failed exchange. A cancellation and an interruption leave none. -/
def errorEntries (url : String) (f : Failure) : List Log.Entry :=
  if f.isError then [entry "HTTP error" [("url", .text url), ("error", .text f.text)]] else []

/-- The `success` of a body that is an object. -/
def statedSuccess : Value → Value
  | .object fields => Value.field fields "success"
  | _ => .null

def responseEntry (url : String) (status : Int) (body : Value) : Log.Entry :=
  entry "HTTP response"
    [("url", .text url), ("status", .int status), ("success", statedSuccess body)]

/-- Posts a payload and returns the decoded body. -/
def http (c : Client) (path : String) (payload : Value) (w : Wire) : Outcome Value × Wire :=
  let url := c.baseUrl ++ path
  match c.exchange path payload (w.note (requestEntry url payload)) with
  | (.error f, w) => (.error f, (errorEntries url f).foldl Wire.note w)
  | (.ok (status, body), w) => (.ok body, w.note (responseEntry url status body))

def payloadOf (sql : String) (params : List Value) : Value :=
  .object [("sql", .text sql), ("params", .list params)]

def refusal (e : Envelope) (sql : String) : Failure :=
  .refused e.errorMessage (e.errors.map Notice.toValue) (some sql)

/-- The outcome of a statement by its envelope, with the record of it. -/
def verdict (e : Envelope) (sql : String) : Outcome QueryResult × Log.Entry :=
  if e.success then
    let r := e.firstResult
    (.ok r, entry "SQL success"
      [("rows_read", Value.field r.metadata "rows_read"),
       ("rows_written", Value.field r.metadata "rows_written"),
       ("duration", Value.field r.metadata "duration")])
  else
    (.error (refusal e sql),
      entry "SQL error" [("sql", .text sql), ("errors", .list (e.errors.map Notice.toValue))])

/-- Executes a statement with its parameters and returns its first result set. -/
def executeSql (c : Client) (sql : String) (params : List Value) (w : Wire) :
    Outcome QueryResult × Wire :=
  let w := w.note (entry "Executing SQL" [("sql", .text sql), ("params", .list params)])
  match c.http "/query" (payloadOf sql params) w with
  | (.error f, w) => (.error f, w)
  | (.ok body, w) =>
    match Envelope.read body with
    | .error issues => (.error (.invalid issues), w)
    | .ok envelope =>
      let (outcome, e) := verdict envelope sql
      (outcome, w.note e)

/-- The client as an executor of calls. -/
def executor (c : Client) : Executor Wire := fun call w => c.executeSql call.sql call.params w

def listTables (c : Client) (w : Wire) : Outcome (List Value) × Wire :=
  match c.executeSql catalogSql [] w with
  | (.ok r, w) => (.ok r.tableNames, w)
  | (.error f, w) => (.error f, w)

/-- A value as a list of parameters; a falsy one is the empty list. -/
def paramsOf (v : Value) : Outcome (List Value) :=
  if v.truthy then
    match v.members? with
    | some members => .ok members
    | none => .error (.wrongType "")
  else .ok []

/-- The methods of a client. -/
inductive Step where
  | executeSql (sql : String) (params : Value)
  | listTables
  | http (path : String) (payload : Value)
  | enter
  | close

inductive Answer where
  | result (r : QueryResult)
  | value (v : Value)

def Step.run (step : Step) (c : Client) (w : Wire) : Outcome Answer × Client × Wire :=
  match step with
  | .executeSql sql params =>
    match paramsOf params with
    | .error f => (.error f, c, w)
    | .ok params =>
      let (o, w) := c.executeSql sql params w
      (o.map .result, c, w)
  | .listTables =>
    let (o, w) := c.listTables w
    (o.map fun names => .value (.list names), c, w)
  | .http path payload =>
    let (o, w) := c.http path payload w
    (o.map .value, c, w)
  | .enter => (.ok (.value (.bool true)), c, w)
  | .close => (.ok (.value .null), c.close, w)

/-- Runs steps in order and returns the answer of each with its requests and its log. -/
def runAll : List Step → Client → Wire → List (Outcome Answer × Wire)
  | [], _, _ => []
  | step :: rest, c, w =>
    let (o, c, w) := step.run c { w with requests := [], log := [] }
    (o, w) :: runAll rest c w

end Client

end SqlBridge.Remote
