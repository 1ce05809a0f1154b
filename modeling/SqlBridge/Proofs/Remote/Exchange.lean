import SqlBridge.Proofs.Document.RoundTrip
import SqlBridge.Proofs.Task.History
import SqlBridge.Remote.Client

/-!
The requests of a client. A statement whose payload can be encoded is sent as one request, and its
outcome is determined by the reply; any other statement sends nothing. So the requests of a task are
those of its calls, in order.
-/

namespace SqlBridge.Remote

namespace Client

/-- The construction of a client fails on its address or on its token, or gives an open client. -/
theorem ofSettings_cases (check : String → Option String) (s : Settings) :
    (∃ message, ofSettings check s = .error (.invalidAddress message)) ∨
      (∃ first last c, ofSettings check s = .error (.nonAsciiToken first last c)) ∨
      ∃ baseUrl, ofSettings check s = .ok ⟨baseUrl, s.apiToken, true⟩ := by
  simp only [ofSettings, ofAddress]
  cases check (Settings.dropLastSlashes s.databaseUrl) with
  | some message => exact .inl ⟨message, rfl⟩
  | none =>
    right
    unfold nonAscii?
    cases (authorization s.apiToken).toList.dropWhile Text.isAscii with
    | nil => exact .inr ⟨_, rfl⟩
    | cons c rest => exact .inl ⟨_, _, c, rfl⟩

/-- The request of a call. -/
def requestOf (c : Client) (call : Call) : Outcome HttpRequest :=
  c.request "/query" (payloadOf call.sql call.params)

/-- The requests of a call: one, or none when it has none. -/
def requestsOf (c : Client) (call : Call) : List HttpRequest :=
  match c.requestOf call with
  | .ok request => [request]
  | .error _ => []

/-- The outcome of a statement by its reply. -/
def resultOf (sql : String) (reply : HttpReply) : Outcome QueryResult := do
  let (_, body) ← decode reply
  let envelope ← ofChecked (Envelope.read body)
  (verdict envelope sql).1

/-- The reply that is next on a wire. -/
def nextReply (w : Wire) : HttpReply := w.replies.headD Wire.emptySuccess

theorem send_eq (w : Wire) (request : HttpRequest) :
    w.send request = (nextReply w, ⟨w.replies.tail, w.requests ++ [request], w.log⟩) := by
  unfold Wire.send nextReply
  cases w with
  | mk replies requests log => cases replies <;> rfl

theorem nextReply_note (w : Wire) (e : Log.Entry) : nextReply (w.note e) = nextReply w := rfl

/-- Notes leave the replies and the requests as they are. -/
theorem exists_notes_eq (es : List Log.Entry) (w : Wire) :
    ∃ log, es.foldl Wire.note w = ⟨w.replies, w.requests, log⟩ := by
  induction es generalizing w with
  | nil => exact ⟨w.log, rfl⟩
  | cons e rest ih => exact ih (w.note e)

/-- A payload with a request takes one reply. -/
theorem http_sent {c : Client} {path : String} {payload : Value} {request : HttpRequest}
    (h : c.request path payload = .ok request) (w : Wire) :
    ∃ log, c.http path payload w =
      ((decode (nextReply w)).map (·.2), ⟨w.replies.tail, w.requests ++ [request], log⟩) := by
  unfold http exchange
  simp only [h, send_eq, nextReply_note]
  cases decode (nextReply w) with
  | ok answered => exact ⟨_, rfl⟩
  | error f =>
    obtain ⟨log, hnotes⟩ := exists_notes_eq (errorEntries (c.baseUrl ++ path) f)
      ⟨w.replies.tail, w.requests ++ [request],
        (w.note (requestEntry (c.baseUrl ++ path) payload)).log⟩
    exact ⟨log, congrArg (Prod.mk _) hnotes⟩

/-- A payload without a request sends nothing. -/
theorem http_unsent {c : Client} {path : String} {payload : Value} {f : Failure}
    (h : c.request path payload = .error f) (w : Wire) :
    ∃ log, c.http path payload w = (.error f, ⟨w.replies, w.requests, log⟩) := by
  unfold http exchange
  simp only [h]
  obtain ⟨log, hnotes⟩ := exists_notes_eq (errorEntries (c.baseUrl ++ path) f)
    (w.note (requestEntry (c.baseUrl ++ path) payload))
  exact ⟨log, by rw [hnotes]; rfl⟩

/-- A statement with a request takes one reply. -/
theorem executeSql_sent {c : Client} {call : Call} {request : HttpRequest}
    (h : c.requestOf call = .ok request) (w : Wire) :
    ∃ log, c.executeSql call.sql call.params w =
      (resultOf call.sql (nextReply w), ⟨w.replies.tail, w.requests ++ [request], log⟩) := by
  obtain ⟨log, hhttp⟩ := http_sent h
    (w.note (entry "Executing SQL" [("sql", .text call.sql), ("params", .list call.params)]))
  unfold executeSql resultOf
  simp only [hhttp, nextReply_note]
  cases decode (nextReply w) with
  | error f => exact ⟨log, rfl⟩
  | ok answered =>
    obtain ⟨status, body⟩ := answered
    simp only [Outcome.map_ok, Outcome.ok_bind]
    cases Envelope.read body with
    | error issues => exact ⟨log, rfl⟩
    | ok envelope => exact ⟨_, rfl⟩

/-- A statement without a request sends nothing. -/
theorem executeSql_unsent {c : Client} {call : Call} {f : Failure}
    (h : c.requestOf call = .error f) (w : Wire) :
    ∃ log, c.executeSql call.sql call.params w = (.error f, ⟨w.replies, w.requests, log⟩) := by
  obtain ⟨log, hhttp⟩ := http_unsent h
    (w.note (entry "Executing SQL" [("sql", .text call.sql), ("params", .list call.params)]))
  unfold executeSql
  simp only [hhttp]
  exact ⟨log, rfl⟩

/-- A statement has a result exactly if its reply is a successful envelope. -/
theorem resultOf_eq_ok_iff {sql : String} {reply : HttpReply} {r : QueryResult} :
    resultOf sql reply = .ok r ↔
      ∃ status body envelope, decode reply = .ok (status, body) ∧
        Envelope.read body = .ok envelope ∧ envelope.success = true ∧
        envelope.firstResult = r := by
  simp only [resultOf, Outcome.bind_eq_ok_iff, Prod.exists]
  constructor
  · rintro ⟨status, body, hdecode, envelope, henvelope, hverdict⟩
    have hread : Envelope.read body = .ok envelope := by
      cases hchecked : Envelope.read body with
      | ok e => rw [hchecked] at henvelope; cases henvelope; rfl
      | error issues => rw [hchecked] at henvelope; cases henvelope
    unfold verdict at hverdict
    split_ifs at hverdict with hsuccess
    cases hverdict
    exact ⟨status, body, envelope, hdecode, hread, hsuccess, rfl⟩
  · rintro ⟨status, body, envelope, hdecode, hread, hsuccess, rfl⟩
    refine ⟨status, body, hdecode, envelope, by rw [hread]; rfl, ?_⟩
    unfold verdict
    rw [if_pos hsuccess]

/-- A successful body that is read back from its text is the answer to a statement. -/
theorem resultOf_compact {sql : String} {status : Int} (body : Value) {envelope : Envelope}
    (hbody : Document.keeps body = true) (hread : Envelope.read body = .ok envelope)
    (hsuccess : envelope.success = true) :
    resultOf sql (.response status (Document.compact body)) = .ok envelope.firstResult := by
  have hdecode : decode (.response status (Document.compact body)) = .ok (status, body) := by
    simp only [decode, Document.readBody_compact hbody]
  exact resultOf_eq_ok_iff.mpr ⟨status, body, envelope, hdecode, hread, hsuccess, rfl⟩

theorem requests_executor (c : Client) (call : Call) (w : Wire) :
    (c.executor call w).2.requests = w.requests ++ c.requestsOf call := by
  unfold executor requestsOf
  cases hrequest : c.requestOf call with
  | ok request =>
    obtain ⟨log, hrun⟩ := executeSql_sent hrequest w
    rw [hrun]
  | error f =>
    obtain ⟨log, hrun⟩ := executeSql_unsent hrequest w
    rw [hrun]
    exact (List.append_nil w.requests).symm

/-- The requests of a task are those of its calls. -/
theorem requests_run {α : Type} (c : Client) (t : Task α) (w : World Wire) :
    (t.run c.executor w).2.remote.requests =
      w.remote.requests ++ (t.history c.executor w).flatMap fun e => c.requestsOf e.call := by
  induction t generalizing w with
  | done a => exact (List.append_nil w.remote.requests).symm
  | fail f => exact (List.append_nil w.remote.requests).symm
  | send call next ih =>
    have hsent := c.requests_executor call w.remote
    simp only [Task.run, Task.history]
    cases hanswer : c.executor call w.remote with
    | mk o remote =>
      rw [hanswer] at hsent
      cases o with
      | ok r =>
        have hrest := ih r { w.record call with remote }
        rw [hsent, List.append_assoc] at hrest
        exact hrest
      | error f => simpa using hsent
  | look next ih => exact ih w.registry w
  | learn names next ih => exact ih (w.learn names)
  | beginSeed next ih =>
    have hrest := ih w.beginSeed
    rwa [World.remote_beginSeed] at hrest
  | note e next ih => exact ih (w.note e)

/-- The requests of a task by the calls that it has made. -/
theorem requests_of_calls {α : Type} {c : Client} {t : Task α} {w : World Wire} {calls : List Call}
    (h : (t.run c.executor w).2.calls = w.calls ++ calls) :
    (t.run c.executor w).2.remote.requests =
      w.remote.requests ++ calls.flatMap c.requestsOf := by
  rw [Task.calls_run, List.append_cancel_left_eq] at h
  rw [requests_run, ← h, List.flatMap_map]

end Client

end SqlBridge.Remote
