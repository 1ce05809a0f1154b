import SqlBridge.Proofs.Adapter.Sending
import SqlBridge.Proofs.CommandLine.Documents
import SqlBridge.Proofs.Registry.Calls
import SqlBridge.Proofs.Remote.Exchange
import SqlBridge.Proofs.Schema.Description

/-!
The ways to provision a table. A registry sends the statement of a mapper for an unknown table, and
a command sends the statement of a file. If the mapper and the file declare the same definitions,
both send the same statement, which is also the statement of the definitions alone.
-/

namespace SqlBridge

open Schema Remote

/-- A task whose only call, while a table is unknown, is the statement that provisions it; without
provisioning it has none. -/
def ProvisionsBy (sql table : String) {α : Type} (t : Task α) : Prop :=
  ∀ (σ : Type) (answer : Executor σ) (w : World σ),
    w.registry.known.contains (.text table) = false →
      (t.run answer w).2.calls = w.calls ++ if w.registry.autocreate then [⟨sql, []⟩] else []

theorem provisionsBy_ensure {ddl : Validation.Checked String} {sql : String} (h : ddl = .ok sql)
    (table : String) : ProvisionsBy sql table (Registry.ensure ddl table) := by
  intro σ answer w hunknown
  rw [Registry.ensure_eq, h]
  simp only [Task.run, hunknown, Bool.false_eq_true, if_false]
  cases hauto : w.registry.autocreate with
  | false => exact (List.append_nil w.calls).symm
  | true =>
    simp only [if_true, Registry.provision, ofChecked, Task.run]
    cases answer ⟨sql, []⟩ (w.note (Registry.tableEntry "Creating table" table [])).remote with
    | mk o remote => cases o <;> rfl

/-- A continuation without calls adds none. -/
theorem ProvisionsBy.bind {sql table : String} {α β : Type} {t : Task α} {k : α → Task β}
    (h : ProvisionsBy sql table t)
    (hk : ∀ (σ : Type) (answer : Executor σ) a, Task.Quiet answer (k a)) :
    ProvisionsBy sql table (t >>= k) := by
  intro σ answer w hunknown
  have ht := h σ answer w hunknown
  rw [Task.run_bind]
  cases hrun : t.run answer w with
  | mk o after =>
    rw [hrun] at ht
    cases o with
    | ok a => exact (hk σ answer a after).trans ht
    | error f => exact ht

theorem Registry.provisionsBy_ensureMapper {m : Mapper} {sql : String}
    (h : m.createTable = .ok sql) : ProvisionsBy sql m.tableName (ensureMapper m) :=
  provisionsBy_ensure h m.tableName

/-- The request for a mapper provisions its table. -/
theorem Registry.provisionsBy_request {description : Value} {m : Mapper} {sql : String}
    (hread : Mapper.read description = .ok m) (h : m.createTable = .ok sql) :
    ProvisionsBy sql m.tableName (Request.ensureMapper description).task := by
  have htask : (Request.ensureMapper description).task =
      Registry.ensureMapper m >>= fun _ => pure .null := by
    rw [Request.task, hread]
    rfl
  rw [htask]
  exact (provisionsBy_ensureMapper h).bind fun _ _ _ => .pure _

theorem Registry.provisionsBy_ensureTable {id table sql : String} {definitions : Fields Value}
    {fields : Fields Field} (hfields : readEach Field.read definitions = .ok fields)
    (hread : createTable id fields table = .ok sql)
    (hunread : createTableOfValues id definitions table = .ok sql) (validate : Bool) :
    ProvisionsBy sql table (Request.ensureTable id definitions table validate).task := by
  cases validate with
  | false =>
    exact (provisionsBy_ensure hunread table).bind fun _ _ _ => .pure _
  | true =>
    have htask : (Request.ensureTable id definitions table true).task =
        ensure (createTable id fields table) table >>= fun _ => pure .null := by
      rw [Request.task, hfields]
      rfl
    rw [htask]
    exact (provisionsBy_ensure hread table).bind fun _ _ _ => .pure _

/-- The preparation of an operation provisions the table of its mapper. -/
theorem Adapter.provisionsBy_prepare {source : MapperSource} {m : Mapper} {sql : String}
    (hm : source.resolve = .ok m) (h : m.createTable = .ok sql) :
    ProvisionsBy sql m.tableName (prepare source) := by
  intro σ answer w hunknown
  have hensure := Registry.provisionsBy_ensureMapper h σ answer w.beginSeed
    (by rwa [World.registry_beginSeed])
  rw [World.calls_beginSeed, World.registry_beginSeed] at hensure
  rw [run_prepare hm]
  exact hensure

/-- Whether a reply is a successful envelope. -/
def Remote.Grants (reply : HttpReply) : Prop :=
  ∃ status body envelope, Client.decode reply = .ok (status, body) ∧
    Envelope.read body = .ok envelope ∧ envelope.success = true

theorem Remote.grants_iff_resultOf {sql : String} {reply : HttpReply} :
    Grants reply ↔ ∃ r, Client.resultOf sql reply = .ok r := by
  simp only [Client.resultOf_eq_ok_iff]
  constructor
  · rintro ⟨status, body, envelope, hdecode, hread, hsuccess⟩
    exact ⟨_, status, body, envelope, hdecode, hread, hsuccess, rfl⟩
  · rintro ⟨-, status, body, envelope, hdecode, hread, hsuccess, -⟩
    exact ⟨status, body, envelope, hdecode, hread, hsuccess⟩

namespace CommandLine

/-- Whether a file declares these definitions under `properties`. -/
def Declares (text : String) (definitions : Fields Value) : Prop :=
  ∃ document,
    readObject schemaOption.name (String.ofList (withLineFeeds text.toList)) = .ok document ∧
      document.get? "properties" = some (.object definitions)

/-- Text without carriage returns is read unchanged. -/
theorem withLineFeeds_eq {cs : List Char} (h : '\r' ∉ cs) : withLineFeeds cs = cs := by
  induction cs with
  | nil => rfl
  | cons c rest ih =>
    simp only [List.mem_cons, not_or] at h
    rw [withLineFeeds]
    · rw [if_neg (Ne.symm h.1), ih h.2]
    · rintro - rfl
      exact absurd rfl h.1

/-- A file with the text of a document, in either layout, declares its definitions. -/
theorem declares_of_write (indent : Option ℕ) {document definitions : Fields Value}
    (hkeeps : Document.keeps (.object document) = true)
    (h : document.get? "properties" = some (.object definitions)) :
    Declares (String.ofList (Document.write indent 0 (.object document))) definitions := by
  have hwithin : Document.keepsWithin (some Document.maxDigits) (.object document) = true := by
    rw [Document.keepsWithin_maxDigits, hkeeps]
  obtain ⟨c, cs, hwrite, -, -⟩ := Document.exists_write_eq indent 0 hwithin
  have hread : Document.read (String.ofList (Document.write indent 0 (.object document) ++ [])) =
      .ok (.object document) := Document.read_write indent hkeeps rfl rfl
  have hreturn : '\r' ∉ Document.write indent 0 (.object document) := fun hmem => by
    rcases Document.InLayout.write indent _ hwithin 0 _ hmem with hplain | ⟨-, hfeed⟩
    · cases hplain
    · cases hfeed
  rw [List.append_nil] at hread
  refine ⟨document, gives_iff_readObject.mpr (.inr ?_), h⟩
  rw [String.toList_ofList, withLineFeeds_eq hreturn]
  exact ⟨by simp [hwrite], hread⟩

/-- Whether the words of a command line are those of a command. -/
def Asks (files : String → Located) (words : List String) (c : Command) : Prop :=
  ∃ name rest, Invocation.read words = .ok (.command name rest) ∧
    Command.read files name rest = .ok (some c)

theorem run_of_asks {host : Host} {words : List String} {c : Command}
    (h : Asks host.files words c) (s : Settings) (w : Wire) :
    (∀ f, setUp (.ok s) = .error f →
      run host (.ok s) words w = .early host (some s) (.fail f) w) ∧
    ∀ configuration, setUp (.ok s) = .ok (s, configuration) →
      run host (.ok s) words w = .ofEffect host (some s) configuration (c.execute host s w) := by
  obtain ⟨name, rest, hwords, hcommand⟩ := h
  obtain ⟨hunset, hset⟩ := run_of_words hwords host s w
  refine ⟨hunset, fun configuration hconfigured => ?_⟩
  rw [hset configuration hconfigured]
  simp only [executeWords, hcommand]

/-- Any table can be given on a command line after two dashes, and any id attribute as the value of
an option. -/
theorem asks_createTable {files : String → Located} {path text : String}
    (hfile : files path = .file text) (table id : String) :
    Asks files ["create-table", "--schema", path, "--id-attribute", id, "--", table]
      (.createTable table text id) := by
  refine ⟨"create-table", _, rfl, ?_⟩
  have hschema : readWord (optionsOf "create-table") "--schema" =
      .ok (.awaiting "--schema" "--schema") := rfl
  have hid : readWord (optionsOf "create-table") "--id-attribute" =
      .ok (.awaiting "--id-attribute" "--id-attribute") := rfl
  have hwords : Words.read (optionsOf "create-table") true
      ["--schema", path, "--id-attribute", id, "--", table] =
        .ok ⟨[], [("--schema", path), ("--id-attribute", id)], [table]⟩ := by
    simp [Words.read, hschema, hid, Except.map, Words.addValue, Words.ofArguments]
  have hfound : readWords files "create-table"
      ⟨[], [("--schema", path), ("--id-attribute", id)], [table]⟩ =
        .ok (.createTable table text id) := by
    simp [readWords, readCreateTable, Words.value?, schemaOption, idOption, readFile, hfile,
      Words.argument]
  rw [Command.read, hwords, Outcome.ok_bind, hfound]
  rfl

theorem provisioning_eq {table text id sql : String} {definitions : Fields Value}
    {fields : Fields Field} (hfile : Declares text definitions)
    (hfields : readEach readLoosely definitions = .ok fields)
    (h : createTable id fields table = .ok sql) : provisioning table text id = .ok sql := by
  obtain ⟨document, hread, hdefinitions⟩ := hfile
  have hdeclared : declaredIn document = .ok definitions := by
    rw [declaredIn, hdefinitions]
  rw [provisioning, hread, Outcome.ok_bind, hdeclared, Outcome.ok_bind, hfields]
  change ofChecked (createTable id fields table) = _
  rw [h]
  rfl

/-- The requests and the ending of a provisioning command. It ends before any request if the log
cannot be configured or the client cannot be built. Otherwise one request carries the statement, and
the statement is printed exactly if the request succeeds. -/
structure Provisions (host : Host) (s : Settings) (sql : String) (w : Wire) (ran : RunResult) :
    Prop where
  unconfigured : ∀ f, setUp (.ok s) = .error f → ran.FailedFirst host s f w
  unconnected : ∀ configuration, setUp (.ok s) = .ok (s, configuration) →
    ∀ f, Client.ofSettings host.addressFault? s = .error f → ran.FailedFirst host s f w
  sent : ∀ configuration, setUp (.ok s) = .ok (s, configuration) →
    ∀ client, Client.ofSettings host.addressFault? s = .ok client →
      ran.wire.requests = w.requests ++
        [⟨addressOf client.baseUrl "/query", Client.authorization client.token,
          .object [("sql", .text sql), ("params", .list [])]⟩]
  printed : ∀ configuration, setUp (.ok s) = .ok (s, configuration) →
    ∀ client, Client.ofSettings host.addressFault? s = .ok client →
      Grants (Client.nextReply w) → ran.ending = ⟨line sql, "", .ok 0⟩
  silent : ¬Grants (Client.nextReply w) → ran.ending.output = "" ∧ ran.ending.result ≠ .ok 0

theorem ending_fail (report : Failure → String) (f : Failure) :
    ((Progress.fail f).ending report).output = "" ∧
      ((Progress.fail f).ending report).result ≠ .ok 0 := by
  unfold Progress.ending
  split
  · next hended => cases hended
  · exact ⟨rfl, by simp⟩
  · split <;> exact ⟨rfl, by simp⟩

theorem requestOf_provisioning {client : Client} (hopen : client.isOpen = true) (sql : String) :
    client.requestOf ⟨sql, []⟩ =
      .ok ⟨addressOf client.baseUrl "/query", Client.authorization client.token,
        .object [("sql", .text sql), ("params", .list [])]⟩ :=
  Client.request_of_isEncodable hopen rfl "/query"

theorem provisions_run {host : Host} {words : List String} {table text id sql : String}
    (hasks : Asks host.files words (.createTable table text id))
    (h : provisioning table text id = .ok sql) (s : Settings) (w : Wire) :
    Provisions host s sql w (run host (.ok s) words w) := by
  obtain ⟨hunset, hset⟩ := run_of_asks hasks s w
  have heffect : (Command.createTable table text id).execute host s w =
      withClient host s w fun client =>
        (.ofOutcome ((client.executeSql sql [] w).1.map fun _ => line sql), [],
          (client.executeSql sql [] w).2) := by
    rw [Command.execute, h]
  have hsent : ∀ client, Client.ofSettings host.addressFault? s = .ok client →
      ∃ log, client.executeSql sql [] w =
        (Client.resultOf sql (Client.nextReply w), ⟨w.replies.tail, w.requests ++ [_], log⟩) :=
    fun client hclient => Client.executeSql_sent
      (requestOf_provisioning (isOpen_of_ofSettings hclient) sql) w
  refine ⟨fun f hf => ?_, fun configuration hconfigured f hclient => ?_,
    fun configuration hconfigured client hclient => ?_,
    fun configuration hconfigured client hclient hgrants => ?_, fun hrefused => ?_⟩
  · rw [hunset f hf]
    exact failedFirst_of_setUp hf w
  · rw [hset configuration hconfigured, heffect]
    exact failedFirst_of_ofSettings hclient configuration w _
  · obtain ⟨log, hrun⟩ := hsent client hclient
    rw [hset configuration hconfigured, heffect, withClient, hclient]
    simp only [hrun]
    rfl
  · obtain ⟨log, hrun⟩ := hsent client hclient
    have hresult : ∃ r, Client.resultOf sql (Client.nextReply w) = .ok r :=
      grants_iff_resultOf.mp hgrants
    obtain ⟨r, hr⟩ := hresult
    rw [hset configuration hconfigured, heffect, withClient, hclient]
    simp only [hrun, hr]
    rfl
  · rcases setUp_cases s with hf | ⟨configuration, hconfigured⟩
    · rw [hunset _ hf]
      exact ending_fail (host.report (some s)) _
    · rw [hset configuration hconfigured, heffect, withClient]
      cases hclient : Client.ofSettings host.addressFault? s with
      | error f => exact ending_fail (host.report (some s)) f
      | ok client =>
        obtain ⟨log, hrun⟩ := hsent client hclient
        simp only [hrun]
        cases hresult : Client.resultOf sql (Client.nextReply w) with
        | ok r => exact absurd (grants_iff_resultOf.mpr ⟨r, hresult⟩) hrefused
        | error f => exact ending_fail (host.report (some s)) f

end CommandLine

open CommandLine in
/-- A valid description with a table has one provisioning statement. A registry without the table
sends it, for the description and for its definitions, validated at once or not; an adapter sends it
before its operations; and the command with the table, the id attribute and a file with the
definitions sends it in one request and prints it exactly if the request succeeds. -/
theorem one_provisioning_statement {description definitions : Fields Value} {table id : String}
    {m : Mapper} (h : Describes description table id definitions)
    (hread : Mapper.read (.object description) = .ok m) :
    ∃ sql,
      ProvisionsBy sql table (Registry.Request.ensureMapper (.object description)).task ∧
      (∀ validate,
        ProvisionsBy sql table (Registry.Request.ensureTable id definitions table validate).task) ∧
      (∀ source : Adapter.MapperSource, source.resolve = .ok m →
        ProvisionsBy sql table (Adapter.prepare source)) ∧
      createTableOfValues id definitions table = .ok sql ∧
      (∃ fields, readEach Field.read definitions = .ok fields ∧
        createTable id fields table = .ok sql) ∧
      ∀ (host : Host) path text, host.files path = .file text → Declares text definitions →
        Asks host.files ["create-table", "--schema", path, "--id-attribute", id, "--", table]
          (.createTable table text id) ∧
        ∀ words, Asks host.files words (.createTable table text id) → ∀ s w,
          Provisions host s sql w (run host (.ok s) words w) := by
  obtain ⟨sql, hmapper, hvalues, hfields, hloosely, hcreate⟩ := h.exists_statement hread
  obtain ⟨rfl, rfl, -⟩ := h.of_read hread
  refine ⟨sql, Registry.provisionsBy_request hread hmapper,
    Registry.provisionsBy_ensureTable hfields hcreate hvalues,
    fun source hm => Adapter.provisionsBy_prepare hm hmapper, hvalues,
    ⟨m.properties, hfields, hcreate⟩, fun host path text hfile hdeclares => ?_⟩
  exact ⟨asks_createTable hfile _ _, fun words hasks s w =>
    provisions_run hasks (provisioning_eq hdeclares hloosely hcreate) s w⟩

/-- Definitions with a list of types, an unknown key, an explicit null default, a flag under its
plain name, and no key at all. -/
def draftDefinitions : Fields Value :=
  [("title", .object [("type", .list [.text "string", .text "null"]), ("notNull", .bool true),
    ("hint", .text "short"), ("default", .null)]),
   ("rank", .object [("type", .text "number"), ("not_null", .int 1), ("unique", .text "yes")]),
   ("body", .object [])]

def draftSchema : Fields Value := [("properties", .object draftDefinitions)]

def draftDescription : Fields Value :=
  [("name", .text "Draft"), ("table", .text "drafts"), ("idAttribute", .text "key"),
   ("schema", .object draftSchema)]

def draftMapper : Mapper :=
  ⟨"Draft", "key", some "drafts",
    [("title",
      ⟨.oneOf ["string", "null"], false, true, false, some .null, [("hint", .text "short")]⟩),
     ("rank", ⟨.named "number", false, true, true, none, []⟩),
     ("body", ⟨.unspecified, false, false, false, none, []⟩)]⟩

def draftStatement : String :=
  "CREATE TABLE IF NOT EXISTS drafts (key INTEGER PRIMARY KEY AUTOINCREMENT, "
    ++ "title TEXT NOT NULL DEFAULT NULL, rank INTEGER NOT NULL UNIQUE, body TEXT)"

/-- A host whose files hold the schema of the drafts. -/
def draftHost : CommandLine.Host :=
  { CommandLine.bareHost with files := fun _ => .file (Document.compact (.object draftSchema)) }

open CommandLine in
/-- The table of a description, and of a file with its schema. -/
theorem one_provisioning_statement_drafts :
    Describes draftDescription "drafts" "key" draftDefinitions ∧
      Mapper.read (.object draftDescription) = .ok draftMapper ∧
      ProvisionsBy draftStatement "drafts"
        (Registry.Request.ensureMapper (.object draftDescription)).task ∧
      createTableOfValues "key" draftDefinitions "drafts" = .ok draftStatement ∧
      ∀ s w, Provisions draftHost s draftStatement w (run draftHost (.ok s)
        ["create-table", "--schema", "drafts.json", "--id-attribute", "key", "--", "drafts"]
        w) := by
  have hdescribes : Describes draftDescription "drafts" "key" draftDefinitions :=
    ⟨rfl, by decide, rfl, draftSchema, rfl, rfl⟩
  have hread : Mapper.read (.object draftDescription) = .ok draftMapper := by
    with_unfolding_all rfl
  have hfile : Declares (Document.compact (.object draftSchema)) draftDefinitions :=
    declares_of_write none (by decide) rfl
  obtain ⟨sql, hregistry, -, -, hvalues, -, hcommand⟩ := one_provisioning_statement hdescribes hread
  have hsql : createTableOfValues "key" draftDefinitions "drafts" = .ok draftStatement := by
    decide +kernel
  obtain rfl : sql = draftStatement := Except.ok.inj (hvalues.symm.trans hsql)
  obtain ⟨hasks, hruns⟩ := hcommand draftHost "drafts.json" _ rfl hfile
  exact ⟨hdescribes, hread, hregistry, hsql, hruns _ hasks⟩

end SqlBridge
