import SqlBridge.Proofs.Adapter.Image
import SqlBridge.Proofs.Remote.Standalone

/-!
Clients that differ in their token. The token occurs in the authorization of requests only, so a
client with another token has the same answers and the same log over the same replies, and its
requests differ in their authorization only. This holds for every step of a client and for every
step of an adapter over it.
-/

namespace SqlBridge.Remote

variable {α : Type}

namespace Client

def withToken (c : Client) (token : String) : Client := { c with token }

end Client

/-- A request under another token. -/
def HttpRequest.underToken (token : String) (r : HttpRequest) : HttpRequest :=
  { r with authorization := Client.authorization token }

/-- A wire whose requests were sent under another token. -/
def Wire.underToken (token : String) (w : Wire) : Wire :=
  { w with requests := w.requests.map (HttpRequest.underToken token) }

namespace Wire

variable (token : String)

theorem underToken_note (w : Wire) (e : Log.Entry) :
    (w.note e).underToken token = (w.underToken token).note e := rfl

theorem underToken_foldl_note (es : List Log.Entry) (w : Wire) :
    (es.foldl note w).underToken token = es.foldl note (w.underToken token) := by
  rw [foldl_note, foldl_note]
  rfl

theorem underToken_send (w : Wire) (request : HttpRequest) :
    (w.underToken token).send (request.underToken token) =
      ((w.send request).1, (w.send request).2.underToken token) := by
  unfold send
  cases w with
  | mk replies requests log =>
    cases replies <;> simp [underToken]

end Wire

namespace Client

variable (c : Client) (token : String)

theorem request_withToken (path : String) (payload : Value) :
    (c.withToken token).request path payload =
      (c.request path payload).map (HttpRequest.underToken token) := by
  unfold request
  cases Document.writeFault? true payload with
  | some fault => rfl
  | none => cases hopen : c.isOpen <;> simp [withToken, hopen, HttpRequest.underToken, Except.map]

theorem exchange_withToken (path : String) (payload : Value) (w : Wire) :
    (c.withToken token).exchange path payload (w.underToken token) =
      ((c.exchange path payload w).1, (c.exchange path payload w).2.underToken token) := by
  unfold exchange
  rw [request_withToken]
  cases c.request path payload with
  | error f => rfl
  | ok request =>
    simp only [Except.map]
    rw [Wire.underToken_send]

theorem http_withToken (path : String) (payload : Value) (w : Wire) :
    (c.withToken token).http path payload (w.underToken token) =
      ((c.http path payload w).1, (c.http path payload w).2.underToken token) := by
  have hexchange := c.exchange_withToken token path payload
    (w.note (requestEntry (c.baseUrl ++ path) payload))
  have hbase : (c.withToken token).baseUrl = c.baseUrl := rfl
  simp only [http, hbase]
  rw [← Wire.underToken_note, hexchange]
  rcases c.exchange path payload (w.note (requestEntry (c.baseUrl ++ path) payload)) with
    ⟨f | answered, after⟩
  · simp only [Wire.underToken_foldl_note]
  · rfl

theorem executeSql_withToken (sql : String) (params : List Value) (w : Wire) :
    (c.withToken token).executeSql sql params (w.underToken token) =
      ((c.executeSql sql params w).1, (c.executeSql sql params w).2.underToken token) := by
  have hhttp := c.http_withToken token "/query" (payloadOf sql params)
    (w.note (entry "Executing SQL" [("sql", .text sql), ("params", .list params)]))
  simp only [executeSql]
  rw [← Wire.underToken_note, hhttp]
  rcases c.http "/query" (payloadOf sql params)
    (w.note (entry "Executing SQL" [("sql", .text sql), ("params", .list params)])) with
    ⟨f | body, after⟩
  · rfl
  · simp only []
    cases Envelope.read body <;> rfl

/-- The client with another token gives the same answers to calls. -/
theorem mirrors_withToken :
    (c.withToken token).executor.Mirrors (Wire.underToken token) c.executor :=
  fun call w => c.executeSql_withToken token call.sql call.params w

theorem listTables_withToken (w : Wire) :
    (c.withToken token).listTables (w.underToken token) =
      ((c.listTables w).1, (c.listTables w).2.underToken token) := by
  unfold listTables
  rw [executeSql_withToken]
  rcases c.executeSql catalogSql [] w with ⟨f | r, after⟩ <;> rfl

theorem step_withToken (step : Step) (w : Wire) :
    step.run (c.withToken token) (w.underToken token) =
      ((step.run c w).1, (step.run c w).2.1.withToken token,
        (step.run c w).2.2.underToken token) := by
  cases step with
  | executeSql sql params =>
    simp only [Step.run]
    cases paramsOf params with
    | error f => rfl
    | ok bindings => simp only [executeSql_withToken]
  | listTables => simp only [Step.run, listTables_withToken]
  | http path payload => simp only [Step.run, http_withToken]
  | enter => rfl
  | close => rfl

/-- A run of a client under another token. -/
theorem runAll_withToken (steps : List Step) (w : Wire) :
    runAll steps (c.withToken token) (w.underToken token) =
      (runAll steps c w).map fun x => (x.1, x.2.underToken token) := by
  induction steps generalizing c w with
  | nil => rfl
  | cons step rest ih =>
    have hstep := c.step_withToken token step { w with requests := [], log := [] }
    change step.run (c.withToken token) { w.underToken token with requests := [], log := [] } = _
      at hstep
    simp only [runAll, hstep]
    exact congrArg (List.cons _) (ih _ _)

end Client

end SqlBridge.Remote
