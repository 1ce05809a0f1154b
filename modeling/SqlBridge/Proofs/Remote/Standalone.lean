import SqlBridge.Proofs.Remote.Exchange

/-!
The independence of the steps of a client. A step depends on the next reply only: it sends one
request and takes that reply, or it sends nothing and takes none. So a step in a run has the outcome
that it has on a fresh client with only this reply, and the outcome of a statement is a function of
the reply.
-/

namespace SqlBridge.Remote

variable {α β : Type}

/-- A wire after a computation that was run with only the next reply. -/
def Wire.followedBy (w alone : Wire) : Wire :=
  ⟨w.replies.drop alone.requests.length, w.requests ++ alone.requests, w.log ++ alone.log⟩

/-- The wire with only the next reply. -/
def Wire.first (w : Wire) : Wire := .ofReplies [Client.nextReply w]

/-- A computation over a wire is local when it depends on the next reply only, takes one reply for
each request, and otherwise appends to the requests and to the log. -/
def IsLocal (f : Wire → α × Wire) : Prop :=
  ∀ w, f w = ((f w.first).1, w.followedBy (f w.first).2)

theorem Wire.foldl_note (es : List Log.Entry) (w : Wire) :
    es.foldl Wire.note w = ⟨w.replies, w.requests, w.log ++ es⟩ := by
  induction es generalizing w with
  | nil => rw [List.append_nil]; rfl
  | cons e rest ih =>
    rw [List.foldl_cons, ih, List.append_cons]
    rfl

namespace IsLocal

variable {f : Wire → α × Wire}

/-- A computation stays local after a log record. -/
theorem noted (hf : IsLocal f) (e : Log.Entry) : IsLocal fun w => f (w.note e) := by
  intro w
  have hwhole : f (w.note e) = ((f w.first).1, (w.note e).followedBy (f w.first).2) := hf (w.note e)
  have halone : f (w.first.note e) =
      ((f w.first).1, (w.first.note e).followedBy (f w.first).2) := hf (w.first.note e)
  change f (w.note e) = ((f (w.first.note e)).1, w.followedBy (f (w.first.note e)).2)
  rw [hwhole, halone]
  simp only [Wire.followedBy, Wire.note, Wire.first, Wire.ofReplies, List.nil_append,
    List.append_assoc]

/-- A map of the outcome, and records that depend on it, keep a computation local. -/
theorem settled (hf : IsLocal f) (g : α → β) (notes : α → List Log.Entry) :
    IsLocal fun w => (g (f w).1, (notes (f w).1).foldl Wire.note (f w).2) := by
  intro w
  simp only [Wire.foldl_note]
  rw [hf w]
  simp only [Wire.followedBy, List.append_assoc]

end IsLocal

namespace Client

theorem isLocal_exchange (c : Client) (path : String) (payload : Value) :
    IsLocal (c.exchange path payload) := by
  intro w
  unfold exchange
  cases c.request path payload with
  | error f => simp [Wire.followedBy, Wire.first, Wire.ofReplies]
  | ok request =>
    simp only [send_eq]
    simp [Wire.followedBy, Wire.first, Wire.ofReplies, nextReply, List.drop_one]

/-- The records of an exchange. -/
def exchangeNotes (url : String) : Outcome (Int × Value) → List Log.Entry
  | .error f => errorEntries url f
  | .ok (status, body) => [responseEntry url status body]

theorem isLocal_http (c : Client) (path : String) (payload : Value) :
    IsLocal (c.http path payload) := by
  have hlocal := ((c.isLocal_exchange path payload).settled (Except.map Prod.snd)
    (exchangeNotes (c.baseUrl ++ path))).noted (requestEntry (c.baseUrl ++ path) payload)
  convert hlocal using 1
  funext w
  simp only [http]
  generalize c.exchange path payload (w.note (requestEntry (c.baseUrl ++ path) payload)) = x
  obtain ⟨o, w'⟩ := x
  cases o <;> rfl

/-- The records of a body that answers a statement. -/
def verdictNotes (sql : String) (body : Outcome Value) : List Log.Entry :=
  match body >>= fun body => ofChecked (Envelope.read body) with
  | .error _ => []
  | .ok envelope => [(verdict envelope sql).2]

theorem isLocal_executeSql (c : Client) (sql : String) (params : List Value) :
    IsLocal (c.executeSql sql params) := by
  have hlocal := ((c.isLocal_http "/query" (payloadOf sql params)).settled
    (fun body => body >>= fun body => ofChecked (Envelope.read body) >>= fun e => (verdict e sql).1)
    (verdictNotes sql)).noted (entry "Executing SQL" [("sql", .text sql), ("params", .list params)])
  convert hlocal using 1
  funext w
  simp only [executeSql, verdictNotes]
  generalize c.http "/query" (payloadOf sql params)
    (w.note (entry "Executing SQL" [("sql", .text sql), ("params", .list params)])) = x
  obtain ⟨o, w'⟩ := x
  cases o with
  | error f => rfl
  | ok body =>
    simp only [Outcome.ok_bind]
    cases Envelope.read body <;> rfl

theorem isLocal_listTables (c : Client) : IsLocal c.listTables := by
  have hlocal := (c.isLocal_executeSql catalogSql []).settled (Except.map QueryResult.tableNames)
    fun _ => []
  convert hlocal using 1
  funext w
  unfold listTables
  cases c.executeSql catalogSql [] w with
  | mk o w' => cases o <;> rfl

/-- The steps that call the remote service. -/
def Step.asks : Step → Bool
  | .enter => false
  | .close => false
  | _ => true

/-- The path and the payload of a step; parameters without members are refused before. -/
def Step.posting : Step → Option (String × Value)
  | .executeSql sql params => (paramsOf params).toOption.map fun ps => ("/query", payloadOf sql ps)
  | .listTables => some ("/query", payloadOf catalogSql [])
  | .http path payload => some (path, payload)
  | .enter => none
  | .close => none

/-- Whether the body of a request can be encoded. -/
def isEncodable (payload : Value) : Bool := (Document.writeFault? true payload).isNone

/-- Whether a step has a body that can be encoded. -/
def Step.sends (step : Step) : Bool := step.posting.any fun posted => isEncodable posted.2

/-- The requests of a payload: one if it can be encoded, else none. -/
def posted (c : Client) (path : String) (payload : Value) : List HttpRequest :=
  if isEncodable payload then [⟨addressOf c.baseUrl path, authorization c.token, payload⟩] else []

def Step.requests (c : Client) (step : Step) : List HttpRequest :=
  match step.posting with
  | some (path, payload) => c.posted path payload
  | none => []

theorem Step.length_requests (c : Client) (step : Step) :
    (step.requests c).length = if step.sends then 1 else 0 := by
  unfold requests sends posted
  cases step.posting with
  | none => rfl
  | some p => cases hencodable : isEncodable p.2 <;> simp [hencodable]

variable {c : Client} {step : Step}

theorem run_executeSql {params : Value} {bindings : List Value}
    (hparams : paramsOf params = .ok bindings) (sql : String) (c : Client) (w : Wire) :
    (Step.executeSql sql params).run c w =
      ((c.executeSql sql bindings w).1.map .result, c, (c.executeSql sql bindings w).2) := by
  simp only [Step.run, hparams]

theorem run_executeSql_unbound {params : Value} {f : Failure} (hparams : paramsOf params = .error f)
    (sql : String) (c : Client) (w : Wire) :
    (Step.executeSql sql params).run c w = (.error f, c, w) := by
  simp only [Step.run, hparams]

theorem isLocal_quiet (o : Outcome Answer) : IsLocal fun w => (o, w) := by
  intro w
  simp [Wire.followedBy, Wire.first, Wire.ofReplies]

theorem isLocal_step (c : Client) (step : Step) :
    IsLocal fun w => ((step.run c w).1, (step.run c w).2.2) := by
  cases step with
  | executeSql sql params =>
    cases hparams : paramsOf params with
    | error f =>
      simp only [run_executeSql_unbound hparams]
      exact isLocal_quiet (.error f)
    | ok bindings =>
      simp only [run_executeSql hparams]
      exact (c.isLocal_executeSql sql bindings).settled (Except.map Answer.result) fun _ => []
  | listTables =>
    exact c.isLocal_listTables.settled (Except.map fun names => Answer.value (.list names))
      fun _ => []
  | http path payload =>
    exact (c.isLocal_http path payload).settled (Except.map Answer.value) fun _ => []
  | enter => exact isLocal_quiet _
  | close => exact isLocal_quiet _

/-- A call of the remote service leaves the client unchanged. -/
theorem client_step (hasks : step.asks = true) (w : Wire) : (step.run c w).2.1 = c := by
  cases step with
  | executeSql sql params =>
    cases hparams : paramsOf params with
    | error f => rw [run_executeSql_unbound hparams]
    | ok bindings => rw [run_executeSql hparams]
  | listTables => rfl
  | http path payload => rfl
  | enter => cases hasks
  | close => cases hasks

theorem request_of_isEncodable (hopen : c.isOpen = true) {payload : Value}
    (h : isEncodable payload = true) (path : String) :
    c.request path payload = .ok ⟨addressOf c.baseUrl path, authorization c.token, payload⟩ := by
  rw [request, Option.isNone_iff_eq_none.mp h]
  exact if_pos hopen

theorem request_of_fault {payload : Value} {fault : Document.WriteFault}
    (h : Document.writeFault? true payload = some fault) (c : Client) (path : String) :
    c.request path payload = .error (.value (.unwritable fault)) := by
  rw [request, h]

theorem exists_fault {payload : Value} (h : ¬isEncodable payload = true) :
    ∃ fault, Document.writeFault? true payload = some fault :=
  Option.ne_none_iff_exists'.mp fun hnone => h (Option.isNone_iff_eq_none.mpr hnone)

theorem requests_http (hopen : c.isOpen = true) (path : String) (payload : Value) (w : Wire) :
    (c.http path payload w).2.requests = w.requests ++ c.posted path payload := by
  unfold posted
  by_cases hencodable : isEncodable payload = true
  · obtain ⟨log, hrun⟩ := http_sent (request_of_isEncodable hopen hencodable path) w
    rw [hrun, if_pos hencodable]
  · obtain ⟨fault, hfault⟩ := exists_fault hencodable
    obtain ⟨log, hrun⟩ := http_unsent (request_of_fault hfault c path) w
    rw [hrun, if_neg hencodable]
    exact (List.append_nil w.requests).symm

theorem requests_executeSql (hopen : c.isOpen = true) (sql : String) (params : List Value)
    (w : Wire) :
    (c.executeSql sql params w).2.requests =
      w.requests ++ c.posted "/query" (payloadOf sql params) := by
  have hsent : (c.executeSql sql params w).2.requests = w.requests ++ c.requestsOf ⟨sql, params⟩ :=
    c.requests_executor ⟨sql, params⟩ w
  rw [hsent]
  unfold requestsOf requestOf posted
  by_cases hencodable : isEncodable (payloadOf sql params) = true
  · rw [request_of_isEncodable hopen hencodable, if_pos hencodable]
  · obtain ⟨fault, hfault⟩ := exists_fault hencodable
    rw [request_of_fault hfault, if_neg hencodable]

/-- A step of an open client sends its requests. -/
theorem requests_step (hopen : c.isOpen = true) (step : Step) (w : Wire) :
    (step.run c w).2.2.requests = w.requests ++ step.requests c := by
  cases step with
  | executeSql sql params =>
    cases hparams : paramsOf params with
    | error f =>
      simp only [run_executeSql_unbound hparams, Step.requests, Step.posting, hparams]
      exact (List.append_nil w.requests).symm
    | ok bindings =>
      simp only [run_executeSql hparams, Step.requests, Step.posting, hparams]
      exact requests_executeSql hopen sql bindings w
  | listTables =>
    have hsent := requests_executeSql hopen catalogSql [] w
    unfold Step.run listTables
    generalize c.executeSql catalogSql [] w = x at hsent ⊢
    obtain ⟨o, w'⟩ := x
    cases o <;> exact hsent
  | http path payload => exact requests_http hopen path payload w
  | enter => exact (List.append_nil w.requests).symm
  | close => exact (List.append_nil w.requests).symm

/-- A run depends on the replies of its wire only. -/
theorem runAll_ofReplies (steps : List Step) (c : Client) (w : Wire) :
    runAll steps c (.ofReplies w.replies) = runAll steps c w := by
  cases steps <;> rfl

/-- A step in a run has the outcome that it has with the next reply only, and takes that reply if
it sends. -/
theorem runAll_cons (hopen : c.isOpen = true) (hasks : step.asks = true) (rest : List Step)
    (w : Wire) :
    runAll (step :: rest) c w =
      ((step.run c w.first).1, ⟨w.replies.drop (if step.sends then 1 else 0), step.requests c,
        (step.run c w.first).2.2.log⟩) ::
      runAll rest c (.ofReplies (w.replies.drop (if step.sends then 1 else 0))) := by
  have hlocal : ((step.run c (.ofReplies w.replies)).1, (step.run c (.ofReplies w.replies)).2.2) =
      ((step.run c w.first).1, (Wire.ofReplies w.replies).followedBy (step.run c w.first).2.2) :=
    c.isLocal_step step (.ofReplies w.replies)
  have hrequests : (step.run c w.first).2.2.requests = step.requests c :=
    requests_step hopen step w.first
  have hclient := client_step (c := c) hasks (.ofReplies w.replies)
  rw [← runAll_ofReplies]
  simp only [runAll]
  change ((step.run c (.ofReplies w.replies)).1, (step.run c (.ofReplies w.replies)).2.2) ::
    runAll rest (step.run c (.ofReplies w.replies)).2.1 (step.run c (.ofReplies w.replies)).2.2 = _
  rw [hlocal, hclient, (Prod.mk.inj hlocal).2, ← runAll_ofReplies rest]
  simp only [Wire.followedBy, Wire.ofReplies, hrequests, Step.length_requests, List.nil_append]

/-- The outcome of a statement by its reply: the failure of the transport or of the decoding, the
issues of a body that is not an envelope, the refusal of an envelope without success, with the
message of its first error if there is one, or the first result, which may be empty. -/
inductive Means (sql : String) (reply : HttpReply) : Outcome QueryResult → Prop
  | lost {f : Failure} (hdecode : decode reply = .error f) : Means sql reply (.error f)
  | misshapen {status : Int} {body : Value} {issues : List Validation.Issue}
      (hdecode : decode reply = .ok (status, body)) (hread : Envelope.read body = .error issues) :
      Means sql reply (.error (.invalid issues))
  | refused {status : Int} {body : Value} {envelope : Envelope}
      (hdecode : decode reply = .ok (status, body)) (hread : Envelope.read body = .ok envelope)
      (hrefused : envelope.success = false) :
      Means sql reply (.error (.refused
        (((envelope.errors.head?.bind Notice.message).filter fun m => !m.isEmpty).getD
          "Unknown error") (envelope.errors.map Notice.toValue) (some sql)))
  | answered {status : Int} {body : Value} {envelope : Envelope}
      (hdecode : decode reply = .ok (status, body)) (hread : Envelope.read body = .ok envelope)
      (hanswered : envelope.success = true) :
      Means sql reply (.ok (envelope.result.head?.getD .empty))

theorem errorMessage_eq (e : Envelope) :
    e.errorMessage = ((e.errors.head?.bind Notice.message).filter fun m => !m.isEmpty).getD
      "Unknown error" := by
  unfold Envelope.errorMessage
  cases e.errors with
  | nil => rfl
  | cons first rest =>
    cases hmessage : first.message with
    | none => simp [hmessage]
    | some message => cases hempty : message.isEmpty <;> simp [hmessage, hempty, Option.filter]

theorem means_resultOf (sql : String) (reply : HttpReply) :
    Means sql reply (resultOf sql reply) := by
  unfold resultOf
  cases hdecode : decode reply with
  | error f => exact .lost hdecode
  | ok answer =>
    obtain ⟨status, body⟩ := answer
    simp only [Outcome.ok_bind]
    cases hread : Envelope.read body with
    | error issues => exact .misshapen hdecode hread
    | ok envelope =>
      change Means sql reply (verdict envelope sql).1
      unfold verdict
      cases hsuccess : envelope.success with
      | true =>
        rw [if_pos rfl, Envelope.firstResult, List.headD_eq_head?_getD]
        exact .answered hdecode hread hsuccess
      | false =>
        rw [if_neg Bool.false_ne_true, refusal, errorMessage_eq]
        exact .refused hdecode hread hsuccess

/-- A reply has one outcome. -/
theorem Means.unique {sql : String} {reply : HttpReply} {o o' : Outcome QueryResult}
    (h : Means sql reply o) (h' : Means sql reply o') : o = o' := by
  cases h <;> cases h' <;> simp_all

/-- A statement is refused exactly by an envelope without success, unless the transport itself fails
with a refusal. -/
theorem Means.refused_iff {sql : String} {reply : HttpReply} {o : Outcome QueryResult}
    (h : Means sql reply o) :
    (∃ message errors statement, o = .error (.refused message errors statement)) ↔
      (∃ status body envelope, decode reply = .ok (status, body) ∧
        Envelope.read body = .ok envelope ∧ envelope.success = false) ∨
      ∃ message errors statement, reply = .fault (.refused message errors statement) := by
  constructor
  · rintro ⟨message, errors, statement, rfl⟩
    cases h with
    | lost hdecode =>
      unfold decode at hdecode
      split at hdecode
      · cases hdecode
        exact .inr ⟨message, errors, statement, rfl⟩
      · split at hdecode <;> cases hdecode
    | refused hdecode hread hrefused => exact .inl ⟨_, _, _, hdecode, hread, hrefused⟩
  · rintro (⟨status, body, envelope, hdecode, hread, hrefused⟩ | ⟨message, errors, statement, rfl⟩)
    · exact ⟨_, _, _, h.unique (.refused hdecode hread hrefused)⟩
    · exact ⟨message, errors, statement, h.unique (.lost rfl)⟩

/-- The outcome of a statement whose body can be encoded, in an open client. -/
theorem outcome_executeSql (hopen : c.isOpen = true) {sql : String} {bindings : List Value}
    (h : isEncodable (payloadOf sql bindings) = true) (w : Wire) :
    (c.executeSql sql bindings w).1 = resultOf sql (nextReply w) := by
  have hrequest : c.requestOf ⟨sql, bindings⟩ = _ := request_of_isEncodable hopen h "/query"
  obtain ⟨log, hrun⟩ := executeSql_sent hrequest w
  exact congrArg Prod.fst hrun

/-- The reply to a step after the steps of `past`. -/
def replyAfter (past : List Step) (w : Wire) : HttpReply :=
  (w.replies.drop (past.countP Step.sends)).headD Wire.emptySuccess

theorem drop_countP (s : Step) (rest : List Step) (replies : List HttpReply) :
    (replies.drop (if s.sends then 1 else 0)).drop (rest.countP Step.sends) =
      replies.drop ((s :: rest).countP Step.sends) := by
  rw [List.drop_drop, List.countP_cons, Nat.add_comm]

/-- Among calls of the remote service, a step has the outcome of its own run with its reply. -/
theorem exists_runAll_eq (hopen : c.isOpen = true) {past : List Step}
    (hpast : ∀ s ∈ past, s.asks = true) (hasks : step.asks = true) (future : List Step) (w : Wire) :
    ∃ before after, runAll (past ++ step :: future) c w =
        before ++ ((step.run c (.ofReplies [replyAfter past w])).1,
          ⟨w.replies.drop ((past ++ [step]).countP Step.sends), step.requests c,
            (step.run c (.ofReplies [replyAfter past w])).2.2.log⟩) :: after ∧
      before.length = past.length := by
  induction past generalizing w with
  | nil =>
    have hcount : ([] ++ [step]).countP Step.sends = if step.sends then 1 else 0 := by
      rw [List.nil_append, List.countP_singleton]
    rw [hcount]
    exact ⟨[], _, runAll_cons hopen hasks future w, rfl⟩
  | cons s past ih =>
    -- The first step keeps the client and takes its own reply.
    obtain ⟨hs, hpast⟩ := List.forall_mem_cons.mp hpast
    obtain ⟨before, after, hrun, hlength⟩ :=
      ih hpast (.ofReplies (w.replies.drop (if s.sends then 1 else 0)))
    have hreply : replyAfter past (.ofReplies (w.replies.drop (if s.sends then 1 else 0))) =
        replyAfter (s :: past) w := congrArg (·.headD Wire.emptySuccess) (drop_countP s past _)
    rw [hreply, Wire.ofReplies, drop_countP] at hrun
    rw [List.cons_append, runAll_cons hopen hs]
    exact ⟨_ :: before, after, congrArg (List.cons _) hrun, congrArg Nat.succ hlength⟩

/-- In a run of an open client over any replies, each step takes one reply for its one request, or
none if its body cannot be encoded, and has the outcome that it has on a fresh client with only this
reply. The outcome of a statement is the failure to encode it, or the one that its reply determines:
a failure of the transport or of the decoding unchanged, the issues of a body that is not an
envelope, the refusal of an envelope without success, or the first result. -/
theorem steps_stand_alone (hopen : c.isOpen = true) {past future : List Step}
    (hasks : ∀ s ∈ past ++ step :: future, s.asks = true) (w : Wire) :
    let reply := replyAfter past w
    let alone := step.run c (.ofReplies [reply])
    (∃ before after, runAll (past ++ step :: future) c w =
        before ++ (alone.1, ⟨w.replies.drop ((past ++ [step]).countP Step.sends),
          alone.2.2.requests, alone.2.2.log⟩) :: after ∧ before.length = past.length) ∧
      alone.2.2.requests = step.requests c ∧
      alone.2.2.requests.length = (if step.sends then 1 else 0) ∧
      ∀ sql params bindings, step = .executeSql sql params → paramsOf params = .ok bindings →
        match Document.writeFault? true (payloadOf sql bindings) with
        | some fault => step.sends = false ∧ alone.1 = .error (.value (.unwritable fault))
        | none =>
          step.sends = true ∧ ∃ o, Means sql reply o ∧ alone.1 = o.map .result ∧
            ((∃ message errors statement, alone.1 = .error (.refused message errors statement)) ↔
              (∃ status body envelope, decode reply = .ok (status, body) ∧
                Envelope.read body = .ok envelope ∧ envelope.success = false) ∨
              ∃ message errors statement, reply = .fault (.refused message errors statement)) := by
  intro reply alone
  have hpast : ∀ s ∈ past, s.asks = true := fun s hs => hasks s (List.mem_append_left _ hs)
  have hstep : step.asks = true := hasks step (by simp)
  have hrequests : alone.2.2.requests = step.requests c := requests_step hopen step _
  refine ⟨?_, hrequests, ?_, ?_⟩
  · rw [hrequests]
    exact exists_runAll_eq hopen hpast hstep future w
  · rw [hrequests, Step.length_requests]
  · rintro sql params bindings rfl hparams
    have hsends : (Step.executeSql sql params).sends = isEncodable (payloadOf sql bindings) := by
      simp only [Step.sends, Step.posting, hparams]
      rfl
    have halone : alone.1 = (c.executeSql sql bindings (.ofReplies [reply])).1.map .result :=
      congrArg Prod.fst (run_executeSql hparams sql c _)
    cases hfault : Document.writeFault? true (payloadOf sql bindings) with
    | some fault =>
      have hunsent : c.requestOf ⟨sql, bindings⟩ = _ := request_of_fault hfault c "/query"
      obtain ⟨log, hrun⟩ := executeSql_unsent hunsent (.ofReplies [reply])
      rw [hrun] at halone
      exact ⟨by rw [hsends, isEncodable, hfault]; rfl, halone⟩
    | none =>
      have hencodable : isEncodable (payloadOf sql bindings) = true :=
        Option.isNone_iff_eq_none.mpr hfault
      have hmeans := means_resultOf sql reply
      rw [outcome_executeSql hopen hencodable] at halone
      change alone.1 = (resultOf sql reply).map .result at halone
      refine ⟨hsends.trans hencodable, resultOf sql reply, hmeans, halone, ?_⟩
      rw [← hmeans.refused_iff, halone]
      cases resultOf sql reply <;> simp [Except.map]

/-- A step whose body cannot be encoded, and one whose transport fails. -/
def fruitless : List Step :=
  [.http "/query" (.list [.double (Decimal.Double.infinity false)]), .executeSql "SELECT 1" .null]

/-- A refusal with the message of its error. -/
def refusalBody : Value := .object [("errors", .list [.object [("message", .text "no table")]])]

def troubled : Wire := .ofReplies [.fault .cancelled,
  .response 500 (Document.compact refusalBody), Wire.emptySuccess]

def localClient : Client := ⟨"http://d1", "t", true⟩

theorem steps_stand_alone_refused :
    (∀ s ∈ fruitless ++ .executeSql "SELECT 2" .null :: [.listTables], s.asks = true) ∧
      ∃ before o w after, runAll (fruitless ++ .executeSql "SELECT 2" .null :: [.listTables])
          localClient troubled = before ++ (o, w) :: after ∧
        before.length = 2 ∧ w.replies = [Wire.emptySuccess] ∧ w.requests.length = 1 ∧
        o = .error (.refused "no table"
          [.object [("code", .null), ("message", .text "no table")]] (some "SELECT 2")) := by
  have hasks : ∀ s ∈ fruitless ++ .executeSql "SELECT 2" .null :: [.listTables],
      s.asks = true := by decide
  have hreply : replyAfter fruitless troubled = .response 500 (Document.compact refusalBody) := rfl
  have hdecode : decode (replyAfter fruitless troubled) = .ok (500, refusalBody) := by
    have hbody : Document.keeps refusalBody = true := rfl
    simp only [hreply, decode, Document.readBody_compact hbody]
  have hrefused : Envelope.read refusalBody =
      .ok ⟨false, [], [⟨none, some "no table", []⟩], []⟩ := rfl
  obtain ⟨⟨before, after, hrun, hlength⟩, -, hsent, hmeans⟩ :=
    steps_stand_alone (c := localClient) rfl hasks troubled
  obtain ⟨hsends, o, ho, halone, -⟩ := hmeans "SELECT 2" .null [] rfl rfl
  rw [if_pos hsends] at hsent
  have houtcome := ho.unique (.refused hdecode hrefused rfl)
  have hleft : troubled.replies.drop ((fruitless ++ [Step.executeSql "SELECT 2" .null]).countP
      Step.sends) = [Wire.emptySuccess] := rfl
  rw [houtcome] at halone
  -- The single run of the step is not unfolded from here on.
  generalize (Step.executeSql "SELECT 2" .null).run _ _ = alone at hrun hsent halone
  exact ⟨hasks, before, _, _, after, hrun, hlength, hleft, hsent, halone⟩

end Client

end SqlBridge.Remote
