import SqlBridge.Proofs.Remote.Standalone

/-!
The log of a client. Every step that calls the remote service appends one block of records. A block
starts with the request and has one exit; after a response a statement has at most one verdict. The
outcome of the exchange determines which records these are.
-/

namespace SqlBridge.Remote.Client

variable {c : Client} {step : Step}

/-- The outcome of an exchange: the decoded reply, or the failure to send, receive or decode. -/
def exchanged (c : Client) (path : String) (payload : Value) (reply : HttpReply) :
    Outcome (Int × Value) :=
  c.request path payload >>= fun _ => decode reply

theorem exchange_exchanged (c : Client) (path : String) (payload : Value) (w : Wire) :
    (c.exchange path payload w).1 = c.exchanged path payload (nextReply w) ∧
      (c.exchange path payload w).2.log = w.log := by
  unfold exchange exchanged
  cases c.request path payload with
  | error f => exact ⟨rfl, rfl⟩
  | ok request => simp [send_eq]

theorem http_exchanged (c : Client) (path : String) (payload : Value) (w : Wire) :
    (c.http path payload w).1 = (c.exchanged path payload (nextReply w)).map Prod.snd ∧
      (c.http path payload w).2.log = w.log ++ requestEntry (c.baseUrl ++ path) payload ::
        exchangeNotes (c.baseUrl ++ path) (c.exchanged path payload (nextReply w)) := by
  obtain ⟨houtcome, hlog⟩ :=
    c.exchange_exchanged path payload (w.note (requestEntry (c.baseUrl ++ path) payload))
  rw [nextReply_note] at houtcome
  rw [← houtcome]
  simp only [http]
  generalize c.exchange path payload _ = x at hlog ⊢
  obtain ⟨o, after⟩ := x
  cases o with
  | error f =>
    refine ⟨rfl, ?_⟩
    simp only [Wire.foldl_note, exchangeNotes]
    rw [hlog]
    simp [Wire.note]
  | ok answered =>
    refine ⟨rfl, ?_⟩
    simp only [Wire.note, exchangeNotes] at hlog ⊢
    rw [hlog]
    simp

theorem executeSql_exchanged (c : Client) (sql : String) (params : List Value) (w : Wire) :
    let body := (c.exchanged "/query" (payloadOf sql params) (nextReply w)).map Prod.snd
    (c.executeSql sql params w).1 =
        (body >>= fun body => ofChecked (Envelope.read body) >>= fun e => (verdict e sql).1) ∧
      (c.executeSql sql params w).2.log =
        w.log ++ entry "Executing SQL" [("sql", .text sql), ("params", .list params)] ::
          requestEntry (c.baseUrl ++ "/query") (payloadOf sql params) ::
            (exchangeNotes (c.baseUrl ++ "/query")
              (c.exchanged "/query" (payloadOf sql params) (nextReply w)) ++
                verdictNotes sql body) := by
  obtain ⟨houtcome, hlog⟩ := c.http_exchanged "/query" (payloadOf sql params)
    (w.note (entry "Executing SQL" [("sql", .text sql), ("params", .list params)]))
  rw [nextReply_note] at houtcome hlog
  simp only [← houtcome, executeSql]
  generalize c.http "/query" (payloadOf sql params) _ = x at hlog ⊢
  obtain ⟨o, after⟩ := x
  cases o with
  | error f =>
    refine ⟨rfl, hlog.trans ?_⟩
    simp [Wire.note, verdictNotes]
  | ok body =>
    simp only [verdictNotes, Outcome.ok_bind]
    cases Envelope.read body with
    | error issues =>
      refine ⟨rfl, hlog.trans ?_⟩
      simp [Wire.note, ofChecked]
    | ok envelope =>
      refine ⟨rfl, ?_⟩
      change after.log ++ [(verdict envelope sql).2] = _
      rw [hlog]
      simp [Wire.note, ofChecked]

def messages (block : List Log.Entry) : List String := block.map Log.Entry.message

/-- Whether an entry is a debug record of the client. -/
def IsOwn (e : Log.Entry) : Prop := e.logger = logger ∧ e.level = Log.debugLevel

theorem isOwn_exchangeNotes (url : String) (o : Outcome (Int × Value)) :
    ∀ e ∈ exchangeNotes url o, IsOwn e := by
  cases o with
  | ok answered => exact List.forall_mem_singleton.mpr ⟨rfl, rfl⟩
  | error f =>
    change ∀ e ∈ errorEntries url f, IsOwn e
    unfold errorEntries
    split <;> simp [IsOwn, entry, Log.Entry.debug]

theorem isOwn_verdictNotes (sql : String) (body : Outcome Value) :
    ∀ e ∈ verdictNotes sql body, IsOwn e := by
  unfold verdictNotes verdict
  split
  · exact fun e he => nomatch he
  · split <;> exact List.forall_mem_singleton.mpr ⟨rfl, rfl⟩

/-- The steps that execute a statement. -/
def Step.isStatement : Step → Bool
  | .executeSql _ _ => true
  | .listTables => true
  | _ => false

def Step.opening (step : Step) : List String :=
  if step.isStatement then ["Executing SQL"] else []

/-- The last records of a step and its answer, by the outcome of its exchange. -/
inductive Ending (step : Step) : Outcome (Int × Value) → Outcome Answer → List String → Prop
  | lost {f : Failure} (herror : f.isError = true) :
    Ending step (.error f) (.error f) ["HTTP error"]
  | aborted {f : Failure} (habort : f.isError = false) : Ending step (.error f) (.error f) []
  | answered {status : Int} {body : Value} (hstep : step.isStatement = false) :
    Ending step (.ok (status, body)) (.ok (.value body)) ["HTTP response"]
  | misshapen {status : Int} {body : Value} {issues : List Validation.Issue}
      (hstep : step.isStatement = true) (hread : Envelope.read body = .error issues) :
    Ending step (.ok (status, body)) (.error (.invalid issues)) ["HTTP response"]
  | refused {status : Int} {body : Value} {envelope : Envelope} {sql : String}
      (hstep : step.isStatement = true) (hread : Envelope.read body = .ok envelope)
      (hrefused : envelope.success = false) :
    Ending step (.ok (status, body)) (.error (refusal envelope sql)) ["HTTP response", "SQL error"]
  | executed {status : Int} {body : Value} {envelope : Envelope} {a : Answer}
      (hstep : step.isStatement = true) (hread : Envelope.read body = .ok envelope)
      (hexecuted : envelope.success = true) :
    Ending step (.ok (status, body)) (.ok a) ["HTTP response", "SQL success"]

theorem ending_error (step : Step) (url : String) (f : Failure) :
    Ending step (.error f) (.error f) (messages (errorEntries url f)) := by
  unfold errorEntries
  split
  · exact .lost ‹_›
  · exact .aborted (by simpa using ‹¬f.isError = true›)

theorem isOwn_statement {opening request : Log.Entry} (hopening : IsOwn opening)
    (hrequest : IsOwn request) (url sql : String) (o : Outcome (Int × Value)) :
    ∀ e ∈ opening :: request :: (exchangeNotes url o ++ verdictNotes sql (o.map Prod.snd)),
      IsOwn e :=
  List.forall_mem_cons.mpr ⟨hopening, List.forall_mem_cons.mpr ⟨hrequest,
    List.forall_mem_append.mpr ⟨isOwn_exchangeNotes url o, isOwn_verdictNotes sql _⟩⟩⟩

/-- The ending of a statement, for any map of its result. -/
theorem ending_statement (hstep : step.isStatement = true) (o : Outcome (Int × Value))
    (url sql : String) (make : QueryResult → Answer) :
    Ending step o
      ((o.map Prod.snd >>= fun body =>
        ofChecked (Envelope.read body) >>= fun e => (verdict e sql).1).map make)
      (messages (exchangeNotes url o ++ verdictNotes sql (o.map Prod.snd))) := by
  cases o with
  | error f =>
    have hnotes : exchangeNotes url (.error f) ++ verdictNotes sql (.error f) =
        errorEntries url f := by
      rw [verdictNotes, Outcome.error_bind, List.append_nil]
      rfl
    change Ending step (.error f) (.error f) _
    rw [Outcome.map_error, hnotes]
    exact ending_error step url f
  | ok answered =>
    obtain ⟨status, body⟩ := answered
    simp only [Outcome.map_ok, Outcome.ok_bind, verdictNotes]
    cases hread : Envelope.read body with
    | error issues => exact .misshapen hstep hread
    | ok envelope =>
      simp only [ofChecked, Outcome.ok_bind, verdict]
      cases hsuccess : envelope.success with
      | true => exact .executed hstep hread hsuccess
      | false => exact .refused hstep hread hsuccess

/-- A step that calls the remote service appends a block to the log: its opening, the request, and
the records of the outcome of its exchange. -/
theorem exists_block {path : String} {payload : Value}
    (hposting : step.posting = some (path, payload)) (w : Wire) :
    ∃ block exits, (step.run c w).2.2.log = w.log ++ block ∧ (∀ e ∈ block, IsOwn e) ∧
      messages block = step.opening ++ "HTTP request" :: exits ∧
      Ending step (c.exchanged path payload (nextReply w)) (step.run c w).1 exits := by
  cases step with
  | executeSql sql params =>
    cases hparams : paramsOf params with
    | error f => simp [Step.posting, hparams, Except.toOption] at hposting
    | ok bindings =>
      simp only [Step.posting, hparams, Except.toOption, Option.map_some, Option.some.injEq,
        Prod.mk.injEq] at hposting
      obtain ⟨rfl, rfl⟩ := hposting
      obtain ⟨houtcome, hlog⟩ := c.executeSql_exchanged sql bindings w
      rw [run_executeSql hparams, houtcome]
      exact ⟨_, _, hlog, isOwn_statement ⟨rfl, rfl⟩ ⟨rfl, rfl⟩ _ _ _, rfl,
        ending_statement rfl _ _ sql .result⟩
  | listTables =>
    cases hposting
    obtain ⟨houtcome, hlog⟩ := c.executeSql_exchanged catalogSql [] w
    have hrun : (Step.listTables.run c w).1 =
        (c.executeSql catalogSql [] w).1.map (fun r => Answer.value (.list r.tableNames)) ∧
        (Step.listTables.run c w).2.2 = (c.executeSql catalogSql [] w).2 := by
      unfold Step.run listTables
      generalize c.executeSql catalogSql [] w = x
      obtain ⟨o, after⟩ := x
      cases o <;> exact ⟨rfl, rfl⟩
    rw [hrun.1, hrun.2, houtcome]
    exact ⟨_, _, hlog, isOwn_statement ⟨rfl, rfl⟩ ⟨rfl, rfl⟩ _ _ _, rfl,
      ending_statement rfl _ _ catalogSql _⟩
  | http path payload =>
    cases hposting
    obtain ⟨houtcome, hlog⟩ := c.http_exchanged path payload w
    refine ⟨_,
      messages (exchangeNotes (c.baseUrl ++ path) (c.exchanged path payload (nextReply w))), hlog,
      List.forall_mem_cons.mpr ⟨⟨rfl, rfl⟩, isOwn_exchangeNotes _ _⟩, rfl, ?_⟩
    change Ending _ _ ((c.http path payload w).1.map .value) _
    rw [houtcome]
    cases hexchanged : c.exchanged path payload (nextReply w) with
    | error f => exact ending_error _ (c.baseUrl ++ path) f
    | ok answered => exact .answered rfl
  | enter => cases hposting
  | close => cases hposting

/-- The outcome of the exchange of a step, if it has one. -/
def Step.exchanged? (c : Client) (step : Step) (reply : HttpReply) :
    Option (Outcome (Int × Value)) :=
  step.posting.map fun (path, payload) => c.exchanged path payload reply

/-- The records of a step by its reply and its answer. A cancellation or an interruption is not an
error of the transport but stops the task during its exchange, and the block has no exit. -/
structure Step.Logged (c : Client) (step : Step) (reply : HttpReply) (answer : Outcome Answer)
    (block : List Log.Entry) : Prop where
  own : ∀ e ∈ block, IsOwn e
  shape : (∀ f, step.exchanged? c reply = some (.error f) → f.isError = true) →
    ∃ exit verdicts, messages block = step.opening ++ "HTTP request" :: exit :: verdicts ∧
      (exit = "HTTP response" ∨ exit = "HTTP error") ∧
      (verdicts = [] ∨
        step.isStatement = true ∧ (verdicts = ["SQL success"] ∨ verdicts = ["SQL error"]))
  lost_iff : "HTTP error" ∈ messages block ↔
    ∃ f, step.exchanged? c reply = some (.error f) ∧ f.isError = true
  lost : ∀ f, step.exchanged? c reply = some (.error f) → f.isError = true →
    (messages block).getLast? = some "HTTP error" ∧ answer = .error f
  aborted : ∀ f, step.exchanged? c reply = some (.error f) → f.isError = false →
    messages block = step.opening ++ ["HTTP request"] ∧ answer = .error f
  success_iff : step.isStatement = true → "HTTP response" ∈ messages block →
    ("SQL success" ∈ messages block ↔ ∃ a, answer = .ok a)
  refused_iff : step.isStatement = true → "HTTP response" ∈ messages block →
    ("SQL error" ∈ messages block ↔
      ∃ message errors sql, answer = .error (.refused message errors sql))
  silent_iff : step.isStatement = true → "HTTP response" ∈ messages block →
    ("SQL success" ∉ messages block ∧ "SQL error" ∉ messages block ↔
      ∃ status body issues, step.exchanged? c reply = some (.ok (status, body)) ∧
        Envelope.read body = .error issues ∧ answer = .error (.invalid issues))

/-- A message other than those of the opening and of the request is in a block exactly if it is one
of the last messages. -/
theorem mem_messages_iff {block : List Log.Entry} {exits : List String} {message : String}
    (hblock : messages block = step.opening ++ "HTTP request" :: exits)
    (hopening : message ≠ "Executing SQL") (hrequest : message ≠ "HTTP request") :
    message ∈ messages block ↔ message ∈ exits := by
  rw [hblock, List.mem_append, List.mem_cons, or_iff_right hrequest, or_iff_right]
  unfold Step.opening
  split <;> simp [hopening]

theorem Ending.logged {path : String} {payload : Value}
    (hposting : step.posting = some (path, payload)) {reply : HttpReply} {answer : Outcome Answer}
    {block : List Log.Entry} {exits : List String} (hown : ∀ e ∈ block, IsOwn e)
    (hblock : messages block = step.opening ++ "HTTP request" :: exits)
    (h : Ending step (c.exchanged path payload reply) answer exits) :
    step.Logged c reply answer block := by
  have hexchanged : step.exchanged? c reply = some (c.exchanged path payload reply) := by
    rw [Step.exchanged?, hposting]
    rfl
  have hlast : (messages block).getLast? = some (exits.getLast?.getD "HTTP request") := by
    rw [hblock, List.getLast?_append, List.getLast?_cons]
    rfl
  have hmem : ∀ message : String, message ≠ "Executing SQL" → message ≠ "HTTP request" →
      (message ∈ messages block ↔ message ∈ exits) := fun _ => mem_messages_iff hblock
  generalize c.exchanged path payload reply = o at h hexchanged
  constructor
  · exact hown
  · rw [hexchanged]
    intro herrors
    cases h with
    | aborted habort => exact absurd (herrors _ rfl) (by simp [habort])
    | _ => exact ⟨_, _, hblock, by simp [*]⟩
  · rw [hmem _ (by decide) (by decide), hexchanged]
    cases h <;> simp [*]
  · rw [hexchanged, hlast]
    cases h <;> simp [*]
  · rw [hexchanged]
    cases h <;> simp [*]
  · intro hstep
    rw [hmem _ (by decide) (by decide), hmem _ (by decide) (by decide)]
    cases h <;> simp_all
  · rw [hmem _ (by decide) (by decide), hmem _ (by decide) (by decide)]
    cases h <;> simp [refusal]
  · intro hstep
    rw [hmem _ (by decide) (by decide), hmem _ (by decide) (by decide),
      hmem _ (by decide) (by decide), hexchanged]
    cases h <;> simp_all

/-- Runs steps in order over one wire, whose log is kept from step to step. -/
def runOn : List Step → Client → Wire → List (Outcome Answer) × Wire
  | [], _, w => ([], w)
  | step :: rest, c, w =>
    let (o, c, w) := step.run c w
    let (os, w) := runOn rest c w
    (o :: os, w)

/-- The blocks of a run: each step has one, by the first of the replies that remain after the steps
before it. -/
inductive Traced (c : Client) : List HttpReply → List Step → List (Outcome Answer × Wire) → Prop
  | nil (replies : List HttpReply) : Traced c replies [] []
  | cons {replies : List HttpReply} {step : Step} {steps : List Step} {o : Outcome Answer}
      {w : Wire} {results : List (Outcome Answer × Wire)}
      (hlogged : step.Logged c (replies.headD Wire.emptySuccess) o w.log)
      (hrest : Traced c w.replies steps results) :
    Traced c replies (step :: steps) ((o, w) :: results)

theorem asks_of_posting (h : step.posting.isSome = true) : step.asks = true := by
  cases step with
  | enter => cases h
  | close => cases h
  | _ => rfl

theorem isLogged_step (hposts : step.posting.isSome = true) (replies : List HttpReply) :
    step.Logged c (replies.headD Wire.emptySuccess) (step.run c (.ofReplies replies)).1
      (step.run c (.ofReplies replies)).2.2.log := by
  obtain ⟨⟨path, payload⟩, hposting⟩ := Option.isSome_iff_exists.mp hposts
  obtain ⟨block, exits, hlog, hown, hblock, hending⟩ :=
    exists_block (c := c) hposting (.ofReplies replies)
  rw [hlog]
  exact hending.logged hposting hown hblock

/-- A step over any wire has the outcome that it has over a fresh one with the same replies. -/
theorem step_eq_fresh (c : Client) (step : Step) (w : Wire) :
    (step.run c w).1 = (step.run c (.ofReplies w.replies)).1 ∧
      (step.run c w).2.2.replies = (step.run c (.ofReplies w.replies)).2.2.replies ∧
      (step.run c w).2.2.log = w.log ++ (step.run c (.ofReplies w.replies)).2.2.log := by
  have hlocal := c.isLocal_step step w
  have hfresh := c.isLocal_step step (.ofReplies w.replies)
  have hfirst : (Wire.ofReplies w.replies).first = w.first := rfl
  rw [hfirst] at hfresh
  obtain ⟨houtcome, hwire⟩ := Prod.mk.inj hlocal
  obtain ⟨houtcome', hwire'⟩ := Prod.mk.inj hfresh
  rw [houtcome, houtcome', hwire, hwire']
  exact ⟨rfl, rfl, rfl⟩

theorem runOn_cons (hasks : step.asks = true) (rest : List Step) (w : Wire) :
    runOn (step :: rest) c w =
      ((step.run c w).1 :: (runOn rest c (step.run c w).2.2).1,
        (runOn rest c (step.run c w).2.2).2) := by
  simp only [runOn, client_step hasks]

theorem runAll_asking (hasks : step.asks = true) (rest : List Step) (w : Wire) :
    runAll (step :: rest) c w =
      ((step.run c (.ofReplies w.replies)).1, (step.run c (.ofReplies w.replies)).2.2) ::
        runAll rest c (step.run c (.ofReplies w.replies)).2.2 := by
  rw [← runAll_ofReplies]
  simp only [runAll]
  change ((step.run c (.ofReplies w.replies)).1, (step.run c (.ofReplies w.replies)).2.2) ::
    runAll rest (step.run c (.ofReplies w.replies)).2.1 (step.run c (.ofReplies w.replies)).2.2 = _
  rw [client_step hasks]

/-- The log of a run of steps that call the remote service, over any replies, is the concatenation
of one block per step, each by its own reply: it has one exit, which is the error exactly if the
exchange failed, and a verdict after a response exactly as the step answers. -/
theorem one_exit_each {steps : List Step}
    (hposts : ∀ step ∈ steps, step.posting.isSome = true) (w : Wire) :
    (runOn steps c w).1 = (runAll steps c w).map (fun result => result.1) ∧
      (runOn steps c w).2.log = w.log ++ (runAll steps c w).flatMap (fun result => result.2.log) ∧
      Traced c w.replies steps (runAll steps c w) := by
  induction steps generalizing w with
  | nil => exact ⟨rfl, (List.append_nil w.log).symm, .nil w.replies⟩
  | cons step rest ih =>
    obtain ⟨hstep, hrest⟩ := List.forall_mem_cons.mp hposts
    have hasks := asks_of_posting hstep
    obtain ⟨houtcome, hleft, hlog⟩ := step_eq_fresh c step w
    obtain ⟨hanswers, hblocks, htraced⟩ := ih hrest (step.run c w).2.2
    have hsame : runAll rest c (step.run c w).2.2 =
        runAll rest c (step.run c (.ofReplies w.replies)).2.2 := by
      rw [← runAll_ofReplies, hleft, runAll_ofReplies]
    rw [hsame] at hanswers hblocks htraced
    rw [hleft] at htraced
    rw [runOn_cons hasks, runAll_asking hasks]
    refine ⟨?_, ?_, .cons (isLogged_step hstep w.replies) htraced⟩
    · rw [List.map_cons, hanswers, houtcome]
    · rw [List.flatMap_cons, ← List.append_assoc, ← hlog]
      exact hblocks

/-- A body that cannot be encoded, a transport that fails, a statement that is refused, one whose
exchange is cancelled, and a catalog that is listed. -/
def troubledSteps : List Step :=
  fruitless ++ [.executeSql "SELECT 2" .null, .executeSql "SELECT 3" .null, .listTables]

def troubledReplies : List HttpReply :=
  [.fault (.transport .timeout "slow"), .response 500 (Document.compact refusalBody),
    .fault .cancelled]

theorem one_exit_each_troubled :
    (∀ step ∈ troubledSteps, step.posting.isSome = true) ∧
      (runAll troubledSteps localClient (.ofReplies troubledReplies)).map
          (fun result => messages result.2.log) =
        [["HTTP request", "HTTP error"],
          ["Executing SQL", "HTTP request", "HTTP error"],
          ["Executing SQL", "HTTP request", "HTTP response", "SQL error"],
          ["Executing SQL", "HTTP request"],
          ["Executing SQL", "HTTP request", "HTTP response", "SQL success"]] ∧
      Traced localClient troubledReplies troubledSteps
        (runAll troubledSteps localClient (.ofReplies troubledReplies)) := by
  have hposts : ∀ step ∈ troubledSteps, step.posting.isSome = true := by decide
  obtain ⟨-, -, htraced⟩ := one_exit_each (c := localClient) hposts (.ofReplies troubledReplies)
  exact ⟨hposts, by decide +kernel, htraced⟩

end SqlBridge.Remote.Client
