import SqlBridge.Main
import SqlBridge.Proofs.Adapter.Answering
import SqlBridge.Proofs.Adapter.Refusal
import SqlBridge.Proofs.Adapter.Setting
import SqlBridge.Proofs.Query.Alignment
import SqlBridge.Proofs.Query.Removal
import SqlBridge.Proofs.Remote.Standalone
import SqlBridge.Proofs.TableSet

/-!
The commands that read records. Their first request is the catalog statement, and the second is the
selection from the given table, if the catalog lists it. A table that is not listed is reported and
never provisioned, under any settings. Without a configured log, a valid query, or a client, there
is no request.
-/

namespace SqlBridge

/-- Names all of which have a key are learned unchanged. -/
theorem Registry.learnable_eq_of_complete {names : List Value} (h : (learnable names).2 = true) :
    (learnable names).1 = names := by
  simp only [learnable, decide_eq_true_eq] at h ⊢
  exact (List.takeWhile_prefix _).eq_of_length h

namespace Adapter

open Remote (catalogSql)

variable {σ : Type}

/-- Waiting for the seed of a new adapter reads the catalog by one call, adds its names and returns
its failure. Provisioning stays off. -/
theorem exists_waitSeeded_eq (answer : Executor σ) (remote : σ) :
    ∃ after : World σ,
      waitSeeded answer (newWorld remote false true []) =
        ((Registry.seed.run answer (newWorld remote false true [])).1.map fun _ => (), after) ∧
      after.remote = (answer ⟨catalogSql, []⟩ remote).2 ∧
      after.registry.autocreate = false ∧
      after.registry.known =
        (Registry.seed.run answer (newWorld remote false true [])).2.registry.known := by
  obtain ⟨log, hrun⟩ := exists_runSeed_eq answer (newWorld remote false true [])
  have hturn : turn answer (newWorld remote false true []).beginSeed =
      runSeed answer (newWorld remote false true []) := rfl
  have hremote : (Registry.seed.run answer (newWorld remote false true [])).2.remote =
      (answer ⟨catalogSql, []⟩ remote).2 := Registry.remote_run_seed _ _
  have hauto := Task.autocreate_run answer Registry.seed (newWorld remote false true [])
  simp only [waitSeeded, hturn, hrun]
  cases (Registry.seed.run answer (newWorld remote false true [])).1 with
  | ok n => exact ⟨_, rfl, hremote, hauto, rfl⟩
  | error f => cases f <;> exact ⟨_, rfl, hremote, hauto, rfl⟩

/-- A new adapter that has read its catalog knows exactly the listed tables. -/
theorem knows_seeded_iff {registry : Registry} {names : List Value} {table : String}
    (h : registry.known = (TableSet.ofTexts []).insertAll names) :
    knows registry table = true ↔ .text table ∈ names := by
  have hnone : (TableSet.ofTexts []).contains (.text table) = false := rfl
  simp only [knows, h, TableSet.contains_insertAll_iff, hnone, Bool.false_eq_true, false_or]
  constructor
  · rintro ⟨name, hname, hkey⟩
    rwa [← Value.key?_eq_text_iff.mp hkey]
  · exact fun hmem => ⟨_, hmem, rfl⟩

/-- Without provisioning, a read of an unknown table fails before any call. -/
theorem exists_run_unknown {query : Value} {o : Operation} {projection : Sql.Projection}
    (hreads : Criteria.Reads query o projection) (answer : Executor σ) (dbg : Bool)
    {m : Schema.Mapper} {w : World σ} (hauto : w.registry.autocreate = false)
    (hunknown : knows w.registry m.tableName = false) :
    ∃ after, (o.task dbg (.ready m)).run answer w = (.error (.tableNotFound m.tableName), after) ∧
      after.remote = w.remote := by
  have hlooks : o.looksUp = true := by cases hreads <;> rfl
  obtain ⟨k, htask, -⟩ := exists_blames_rest hlooks dbg (.ready m)
  have hrun : (prepare (.ready m) >>= k).run answer w = _ := run_prepare_off rfl k hauto
  rw [if_neg (by simp [hunknown])] at hrun
  exact ⟨_, htask ▸ hrun, by simp⟩

end Adapter

namespace CommandLine

open Adapter Sql
open Remote (Client HttpReply HttpRequest QueryResult Envelope Wire catalogSql)

/-- The mapper of a table given to a command. -/
def tableMapper (table : String) : Schema.Mapper :=
  { Schema.Mapper.ofName table with table := some table }

theorem tableName_tableMapper (table : String) : (tableMapper table).tableName = table := by
  unfold Schema.Mapper.tableName tableMapper
  by_cases hempty : table.isEmpty = true
  · simp only [if_pos hempty]
    rw [String.isEmpty_iff.mp hempty]
    rfl
  · simp only [if_neg hempty]

/-- The inquiry of a command that reads records: a table, the text of a query, and a projection. -/
structure Inquiry where
  table : String
  filter : String
  projection : Projection

def Command.inquiry? : Command → Option Inquiry
  | .findAll table filter _ => some ⟨table, filter.getD "", .everything⟩
  | .count table filter => some ⟨table, filter.getD "", .count⟩
  | _ => none

/-- The fields of a query given as text: none for the empty text, else those of the object in the
document. -/
def Gives (text : String) (fields : Fields Value) : Prop :=
  (text = "" ∧ fields = []) ∨ (text ≠ "" ∧ Document.read text = .ok (.object fields))

/-- The selection of an inquiry, compiled from the fields of its query. -/
def Inquiry.select (i : Inquiry) (fields : Fields Value) : Outcome (Fragment Value) :=
  Criteria.empty.compile (.object fields) >>= fun c =>
    (c.select i.projection i.table).map Statement.select >>= fun s => s.render

/-- The request that reads the catalog. -/
def catalogRequest (client : Client) : HttpRequest :=
  ⟨Remote.addressOf client.baseUrl "/query", Client.authorization client.token,
    Client.payloadOf catalogSql []⟩

theorem isOpen_of_ofSettings {check : String → Option String} {s : Settings} {client : Client}
    (h : Client.ofSettings check s = .ok client) : client.isOpen = true := by
  rcases Client.ofSettings_cases check s with ⟨_, heq⟩ | ⟨_, _, _, heq⟩ | ⟨_, heq⟩ <;>
    rw [heq] at h <;> cases h
  rfl

theorem requestOf_catalog {client : Client} (hopen : client.isOpen = true) :
    client.requestOf ⟨catalogSql, []⟩ = .ok (catalogRequest client) :=
  Client.request_of_isEncodable hopen rfl "/query"

theorem gives_iff_readObject {text option : String} {fields : Fields Value} :
    readObject option text = .ok fields ↔ Gives text fields := by
  unfold readObject Gives
  by_cases hempty : text.isEmpty = true
  · have htext : text = "" := String.isEmpty_iff.mp hempty
    rw [if_pos hempty]
    simp [htext, eq_comm]
  · have htext : text ≠ "" := fun h => hempty (String.isEmpty_iff.mpr h)
    rw [if_neg hempty]
    simp only [htext, false_and, ne_eq, not_false_eq_true, true_and, false_or]
    split
    · next fields' heq => simp [heq]
    · next v hv heq =>
      simp only [heq, reduceCtorEq, Except.ok.injEq, false_iff]
      exact hv fields
    · next fault heq => simp [heq]

/-- A text that is not a query is a usage error. -/
theorem exists_readObject_eq {text : String} (option : String) (h : ∀ fields, ¬Gives text fields) :
    ∃ fault, readObject option text = .error (.command fault) := by
  unfold readObject
  split_ifs with hempty
  · exact absurd (Or.inl ⟨String.isEmpty_iff.mp hempty, rfl⟩) (h [])
  · split
    · next fields heq =>
      exact absurd (Or.inr ⟨fun htext => hempty (String.isEmpty_iff.mpr htext), heq⟩) (h fields)
    · exact ⟨_, rfl⟩
    · exact ⟨_, rfl⟩

/-- The operation of an inquiry, and the printing of its outcome. -/
theorem exists_execute_eq {c : Command} {i : Inquiry} (h : c.inquiry? = some i) (host : Host) :
    ∃ (o : Value → Operation) (print : Outcome Reply → Progress),
      (∀ query, Criteria.Reads query (o query) i.projection) ∧
      (∀ f, print (.error f) = .fail f) ∧
      (∀ f, readObject queryOption.name i.filter = .error f →
        ∀ s w, c.execute host s w = (.fail f, [], w)) ∧
      ∀ fields, readObject queryOption.name i.filter = .ok fields →
        ∀ s w, c.execute host s w = withClient host s w fun client =>
          (print (readRecords client s.debug (o (.object fields)) i.table w).1,
            (readRecords client s.debug (o (.object fields)) i.table w).2.log,
            (readRecords client s.debug (o (.object fields)) i.table w).2.remote) := by
  cases c with
  | findAll table filter asDocument =>
    cases h
    refine ⟨.findAll, printFound host.screen table asDocument, fun _ => .findAll, fun _ => rfl,
      fun f hfault s w => ?_, fun fields hfields s w => ?_⟩
    · rw [Command.execute, hfault]
    · rw [Command.execute, hfields]
  | count table filter =>
    cases h
    refine ⟨.count, printCount, fun _ => .count, fun _ => rfl, fun f hfault s w => ?_,
      fun fields hfields s w => ?_⟩
    · rw [Command.execute, hfault]
    · rw [Command.execute, hfields]
  | _ => cases h

section

variable {query : Value} {o : Operation} {projection : Projection} {table : String}
  {client : Client} {w : Wire}

/-- The catalog statement is sent by one request, and its outcome is that of the next reply. -/
theorem exists_executor_catalog (hopen : client.isOpen = true) (w : Wire) :
    ∃ log, client.executor ⟨catalogSql, []⟩ w =
      (Client.resultOf catalogSql (Client.nextReply w),
        ⟨w.replies.tail, w.requests ++ [catalogRequest client], log⟩) :=
  Client.executeSql_sent (requestOf_catalog hopen) w

theorem executor_newWorld (hopen : client.isOpen = true) (w : Wire) :
    (client.executor ⟨catalogSql, []⟩ (newWorld w false true []).remote).1 =
      Client.resultOf catalogSql (Client.nextReply w) := by
  obtain ⟨log, hcatalog⟩ := exists_executor_catalog hopen w
  exact congrArg Prod.fst hcatalog

/-- If the reading of the catalog fails, its request is the only one. -/
theorem exists_readRecords_of_unread (hopen : client.isOpen = true)
    (h : ∀ r, Client.resultOf catalogSql (Client.nextReply w) = .ok r →
      (Registry.learnable r.tableNames).2 = false) (debug : Bool) (o : Operation)
    (table : String) :
    ∃ f after, readRecords client debug o table w = (.error f, after) ∧
      after.remote.requests = w.requests ++ [catalogRequest client] := by
  obtain ⟨log, hcatalog⟩ := exists_executor_catalog hopen w
  obtain ⟨after, hwait, hremote, -, -⟩ := exists_waitSeeded_eq client.executor w
  have hfailed : ∃ f, (Registry.seed.run client.executor (newWorld w false true [])).1 =
      .error f := by
    rw [Registry.outcome_seed, executor_newWorld hopen]
    cases hresult : Client.resultOf catalogSql (Client.nextReply w) with
    | error f => exact ⟨f, rfl⟩
    | ok r => exact ⟨_, if_neg (by simp [h r hresult])⟩
  obtain ⟨f, hfailed⟩ := hfailed
  rw [hfailed] at hwait
  refine ⟨f, after, ?_, ?_⟩
  · simp only [readRecords, hwait, Outcome.map_error]
  · rw [hremote, hcatalog]

/-- Once the catalog is read, an operation runs in a world that knows the listed tables. -/
theorem exists_readRecords_of_read (hopen : client.isOpen = true) {r : QueryResult}
    (hresult : Client.resultOf catalogSql (Client.nextReply w) = .ok r)
    (hlearnable : (Registry.learnable r.tableNames).2 = true) (debug : Bool) (o : Operation)
    (table : String) :
    ∃ seeded : World Wire, seeded.registry.autocreate = false ∧
      (knows seeded.registry table = true ↔ .text table ∈ r.tableNames) ∧
      seeded.remote.requests = w.requests ++ [catalogRequest client] ∧
      seeded.remote.replies = w.replies.tail ∧
      readRecords client debug o table w =
        (o.task debug (.ready (tableMapper table))).run client.executor seeded := by
  obtain ⟨log, hcatalog⟩ := exists_executor_catalog hopen w
  obtain ⟨seeded, hwait, hremote, hauto, hknown⟩ := exists_waitSeeded_eq client.executor w
  rw [Registry.outcome_seed, executor_newWorld hopen, hresult] at hwait
  rw [Registry.known_seed, executor_newWorld hopen, hresult] at hknown
  simp only [if_pos hlearnable, Outcome.map_ok] at hwait
  refine ⟨seeded, hauto, ?_, by rw [hremote, hcatalog], by rw [hremote, hcatalog], ?_⟩
  · rw [knows_seeded_iff hknown, Registry.learnable_eq_of_complete hlearnable]
  · simp only [readRecords, hwait]
    rfl

/-- A table that the catalog does not list is reported without a further request. -/
theorem exists_readRecords_of_unlisted (hopen : client.isOpen = true)
    (hreads : Criteria.Reads query o projection) {r : QueryResult}
    (hresult : Client.resultOf catalogSql (Client.nextReply w) = .ok r)
    (hlearnable : (Registry.learnable r.tableNames).2 = true)
    (hunlisted : .text table ∉ r.tableNames) (debug : Bool) :
    ∃ after, readRecords client debug o table w = (.error (.tableNotFound table), after) ∧
      after.remote.requests = w.requests ++ [catalogRequest client] := by
  obtain ⟨seeded, hauto, hknows, hrequests, -, hrun⟩ :=
    exists_readRecords_of_read hopen hresult hlearnable debug o table
  have hunknown : knows seeded.registry (tableMapper table).tableName = false := by
    rw [tableName_tableMapper]
    exact Bool.eq_false_iff.mpr fun hknown => hunlisted (hknows.mp hknown)
  obtain ⟨after, hrefused, hremote⟩ :=
    exists_run_unknown hreads client.executor debug hauto hunknown
  rw [tableName_tableMapper] at hrefused
  exact ⟨after, hrun.trans hrefused, by rw [hremote, hrequests]⟩

/-- A table that the catalog lists is read by the compiled selection. -/
theorem requests_readRecords_of_listed (hopen : client.isOpen = true)
    (hreads : Criteria.Reads query o projection) {r : QueryResult}
    (hresult : Client.resultOf catalogSql (Client.nextReply w) = .ok r)
    (hlearnable : (Registry.learnable r.tableNames).2 = true)
    (hlisted : .text table ∈ r.tableNames) (debug : Bool) :
    (readRecords client debug o table w).2.remote.requests =
      w.requests ++ catalogRequest client ::
        (sent (Criteria.empty.compile query >>= fun c =>
          (c.select projection table).map Statement.select >>= fun s => s.render)).flatMap
            client.requestsOf := by
  obtain ⟨seeded, -, hknows, hrequests, -, hrun⟩ :=
    exists_readRecords_of_read hopen hresult hlearnable debug o table
  have hknown : seeded.registry.known.contains (.text (tableMapper table).tableName) = true := by
    rw [tableName_tableMapper]
    exact hknows.mpr hlisted
  have hready : (MapperSource.ready (tableMapper table)).resolve = .ok (tableMapper table) := rfl
  have hcalls := Criteria.calls_of_reads hreads hready client.executor seeded debug hknown
  rw [hrun, Client.requests_of_calls hcalls, hrequests, tableName_tableMapper]
  exact (List.append_cons ..).symm

/-- The rows of a listed table are those of the second reply. -/
theorem exists_readRecords_findAll (hopen : client.isOpen = true) {r found : QueryResult}
    {f : Fragment Value} {request : HttpRequest}
    (hresult : Client.resultOf catalogSql (Client.nextReply w) = .ok r)
    (hlearnable : (Registry.learnable r.tableNames).2 = true)
    (hlisted : .text table ∈ r.tableNames) (hwritten : Criteria.read table query = .ok f)
    (hrequest : client.requestOf ⟨f.text, f.params⟩ = .ok request)
    (hfound : Client.resultOf f.text (w.replies.tail.headD Wire.emptySuccess) = .ok found)
    (debug : Bool) :
    ∃ after, readRecords client debug (.findAll query) table w =
      (.ok ⟨.list (found.rows.map .object), found.metadata⟩, after) := by
  obtain ⟨seeded, -, hknows, -, hreplies, hrun⟩ :=
    exists_readRecords_of_read hopen hresult hlearnable debug (.findAll query) table
  have hknown : seeded.registry.known.contains (.text (tableMapper table).tableName) = true := by
    rw [tableName_tableMapper]
    exact hknows.mpr hlisted
  have hanswer : (client.executor ⟨f.text, f.params⟩ seeded.remote).1 = .ok found := by
    obtain ⟨log, hsent⟩ := Client.executeSql_sent hrequest seeded.remote
    rw [Client.executor, hsent, Client.nextReply, hreplies, hfound]
  rw [← tableName_tableMapper table] at hwritten
  have hready : (MapperSource.ready (tableMapper table)).resolve = .ok (tableMapper table) := rfl
  have houtcome : (((Operation.findAll query).task debug (.ready (tableMapper table))).run
      client.executor seeded).1 = .ok ⟨.list (found.rows.map .object), found.metadata⟩ := by
    refine outcome_of_query hready hknown ?_ hanswer debug _ _ _ _
    exact hwritten
  exact ⟨_, hrun.trans (Prod.ext houtcome rfl)⟩

end

/-- A reply that is an envelope of success whose first result lists a table. -/
def Lists (reply : HttpReply) (table : String) : Prop :=
  ∃ status body envelope, Client.decode reply = .ok (status, body) ∧
    Envelope.read body = .ok envelope ∧ envelope.success = true ∧
    .text table ∈ envelope.firstResult.tableNames

/-- A run that a failure has ended before any request. -/
structure RunResult.FailedFirst (host : Host) (s : Settings) (f : Failure) (w : Wire)
    (ran : RunResult) : Prop where
  wire : ran.wire = w
  ending : ran.ending = ⟨"", host.report (some s) f, .error f⟩

/-- The requests and the ending of an inquiry whose client has been built. -/
structure OnlyReads (client : Client) (i : Inquiry) (fields : Fields Value) (w : Wire)
    (ran : RunResult) : Prop where
  /-- The catalog statement comes first, and at most one request after it: the compiled selection,
  provided that the catalog lists the table. -/
  sends : ∃ more, ran.wire.requests = w.requests ++ catalogRequest client :: more ∧
    (more = [] ∨ Lists (Client.nextReply w) i.table ∧
      ∃ f request, i.select fields = .ok f ∧
        client.requestOf ⟨f.text, f.params⟩ = .ok request ∧ more = [request])
  /-- The selection from a listed table is sent if it can be rendered and encoded. -/
  listed : ∀ r, Client.resultOf catalogSql (Client.nextReply w) = .ok r →
    (∀ name ∈ r.tableNames, name.key?.isSome = true) → .text i.table ∈ r.tableNames →
      ran.wire.requests = w.requests ++ catalogRequest client ::
        (sent (i.select fields)).flatMap client.requestsOf
  /-- A table that is missing from a catalog of texts is reported. -/
  unlisted : ∀ r, Client.resultOf catalogSql (Client.nextReply w) = .ok r →
    (∀ name ∈ r.tableNames, name.isText = true) → .text i.table ∉ r.tableNames →
      ran.ending = ⟨"", "Error: Table " ++ i.table ++ " not found\n", .ok 1⟩

/-- The requests and the ending of an inquiry. It ends before any request if the log cannot be
configured, the query is invalid or the client cannot be built; the failures have this order. -/
structure Inquires (host : Host) (s : Settings) (i : Inquiry) (w : Wire) (ran : RunResult) :
    Prop where
  unconfigured : ∀ f, setUp (.ok s) = .error f → ran.FailedFirst host s f w
  refused : ∀ configuration, setUp (.ok s) = .ok (s, configuration) →
    (∀ fields, ¬Gives i.filter fields) →
      ∃ fault, ran.FailedFirst host s (.command fault) w ∧ Main.exitCode (.command fault) = 2
  unconnected : ∀ configuration, setUp (.ok s) = .ok (s, configuration) →
    ∀ fields, Gives i.filter fields →
      ∀ f, Client.ofSettings host.addressFault? s = .error f → ran.FailedFirst host s f w
  reads : ∀ configuration, setUp (.ok s) = .ok (s, configuration) →
    ∀ fields, Gives i.filter fields →
      ∀ client, Client.ofSettings host.addressFault? s = .ok client →
        OnlyReads client i fields w ran

theorem ending_tableNotFound (report : Failure → String) (table : String) :
    (Progress.fail (.tableNotFound table)).ending report =
      ⟨"", "Error: Table " ++ table ++ " not found\n", .ok 1⟩ := by
  have htext : line ("Error: " ++ ("Table " ++ table ++ " not found")) =
      "Error: Table " ++ table ++ " not found\n" := by
    have hlead : "Error: Table " = "Error: " ++ "Table " := by decide
    have hend : " not found\n" = " not found" ++ "\n" := by decide
    rw [line, hlead, hend]
    simp only [String.append_assoc]
  exact congrArg (fun text => Ending.mk "" text (.ok 1)) htext

/-- The set-up by settings fails on their log level, or it configures the log. -/
theorem setUp_cases (s : Settings) :
    setUp (.ok s) = .error (.value .unknownLevel) ∨
      ∃ configuration, setUp (.ok s) = .ok (s, configuration) := by
  unfold setUp
  rw [Outcome.ok_bind]
  simp only [Log.Configuration.configure, Log.readLevel]
  cases Log.levelNames.lookup s.logLevel with
  | none => exact .inl rfl
  | some n => exact .inr ⟨_, rfl⟩

/-- The failure to build a client leaves the program. -/
theorem ending_of_ofSettings {check : String → Option String} {s : Settings} {f : Failure}
    (h : Client.ofSettings check s = .error f) (report : Failure → String) :
    (Progress.fail f).ending report = ⟨"", report f, .error f⟩ := by
  rcases Client.ofSettings_cases check s with ⟨_, heq⟩ | ⟨_, _, _, heq⟩ | ⟨_, heq⟩ <;>
    rw [heq] at h <;> cases h <;> rfl

/-- The requests after the catalog are the one selection, or none. -/
theorem sent_requests_cases (c : Client) (o : Outcome (Fragment Value)) :
    (sent o).flatMap c.requestsOf = [] ∨
      ∃ f request, o = .ok f ∧ c.requestOf ⟨f.text, f.params⟩ = .ok request ∧
        (sent o).flatMap c.requestsOf = [request] := by
  cases o with
  | error f => exact Or.inl rfl
  | ok f =>
    have hone : (sent (.ok f)).flatMap c.requestsOf = c.requestsOf ⟨f.text, f.params⟩ := by
      simp [sent]
    rw [hone]
    unfold Client.requestsOf
    cases hrequest : c.requestOf ⟨f.text, f.params⟩ with
    | error g => exact Or.inl rfl
    | ok request => exact Or.inr ⟨f, request, rfl, hrequest, rfl⟩

theorem onlyReads_of_effect {client : Client} (hopen : client.isOpen = true) {i : Inquiry}
    {o : Value → Operation} {print : Outcome Reply → Progress}
    (hreads : ∀ query, Criteria.Reads query (o query) i.projection)
    (hprint : ∀ f, print (.error f) = .fail f) (host : Host) (settings : Option Settings)
    (configuration : Log.Configuration) (debug : Bool) (fields : Fields Value) (w : Wire) :
    let read := readRecords client debug (o (.object fields)) i.table w
    OnlyReads client i fields w
      (.ofEffect host settings configuration (print read.1, read.2.log, read.2.remote)) := by
  intro read
  refine ⟨?_, fun r hresult hkeys hlisted => ?_, fun r hresult htexts hunlisted => ?_⟩
  · -- What follows the catalog depends on whether it was read, and on what it lists.
    by_cases hread : ∃ r, Client.resultOf catalogSql (Client.nextReply w) = .ok r ∧
        (Registry.learnable r.tableNames).2 = true
    · obtain ⟨r, hresult, hlearnable⟩ := hread
      by_cases hlisted : .text i.table ∈ r.tableNames
      · refine ⟨_, requests_readRecords_of_listed hopen (hreads _) hresult hlearnable hlisted debug,
          ?_⟩
        obtain ⟨status, body, envelope, hdecode, henvelope, hsuccess, rfl⟩ :=
          Client.resultOf_eq_ok_iff.mp hresult
        exact (sent_requests_cases _ (i.select fields)).imp_right fun hsent =>
          ⟨⟨status, body, envelope, hdecode, henvelope, hsuccess, hlisted⟩, hsent⟩
      · obtain ⟨after, hrun, hrequests⟩ := exists_readRecords_of_unlisted hopen
          (hreads (.object fields)) hresult hlearnable hlisted debug
        exact ⟨[], (congrArg (fun x => x.2.remote.requests) hrun).trans hrequests, Or.inl rfl⟩
    · obtain ⟨f, after, hrun, hrequests⟩ := exists_readRecords_of_unread hopen
        (fun r hresult => Bool.eq_false_iff.mpr fun hlearnable => hread ⟨r, hresult, hlearnable⟩)
        debug (o (.object fields)) i.table
      exact ⟨[], (congrArg (fun x => x.2.remote.requests) hrun).trans hrequests, Or.inl rfl⟩
  · exact requests_readRecords_of_listed hopen (hreads _) hresult
      (by rw [Registry.learnable_of_forall hkeys]) hlisted debug
  · obtain ⟨after, hrun, -⟩ := exists_readRecords_of_unlisted hopen (hreads (.object fields))
      hresult (by rw [Registry.learnable_of_texts htexts]) hunlisted debug
    have hprinted : print read.1 = .fail (.tableNotFound i.table) :=
      (congrArg (fun x => print x.1) hrun).trans (hprint _)
    exact (congrArg (Progress.ending (host.report settings)) hprinted).trans
      (ending_tableNotFound (host.report settings) i.table)

/-- The run of a command line that names a command. -/
theorem run_of_words {words rest : List String} {name : String}
    (hwords : Invocation.read words = .ok (.command name rest)) (host : Host) (s : Settings)
    (w : Wire) :
    (∀ f, setUp (.ok s) = .error f →
      run host (.ok s) words w = .early host (some s) (.fail f) w) ∧
    ∀ configuration, setUp (.ok s) = .ok (s, configuration) →
      run host (.ok s) words w =
        .ofEffect host (some s) configuration (executeWords host s name rest w) := by
  unfold run
  rw [hwords]
  exact ⟨fun f hf => by simp only [hf, Except.toOption], fun configuration hok => by
    simp only [hok]⟩

theorem failedFirst_of_setUp {host : Host} {s : Settings} {f : Failure}
    (h : setUp (.ok s) = .error f) (w : Wire) :
    (RunResult.early host (some s) (.fail f) w).FailedFirst host s f w := by
  rcases setUp_cases s with heq | ⟨_, heq⟩ <;> rw [heq] at h <;> cases h
  exact ⟨rfl, rfl⟩

theorem failedFirst_of_ofSettings {host : Host} {s : Settings} {f : Failure}
    (h : Client.ofSettings host.addressFault? s = .error f) (configuration : Log.Configuration)
    (w : Wire) (k : Client → Effect) :
    (RunResult.ofEffect host (some s) configuration (withClient host s w k)).FailedFirst
      host s f w := by
  rw [withClient, h]
  exact ⟨rfl, ending_of_ofSettings h (host.report (some s))⟩

/-- The words of a command that reads records are parsed as an inquiry, unless they ask for help. -/
theorem exists_inquiry_of_read {files : String → Located} {name : String} {words : List String}
    {c : Command} (hname : name = "find-all" ∨ name = "count")
    (h : Command.read files name words = .ok (some c)) : ∃ i, c.inquiry? = some i := by
  obtain ⟨w, -, h⟩ := Outcome.bind_eq_ok_iff.mp h
  split_ifs at h
  · cases h
  · obtain ⟨command, hcommand, h⟩ := Outcome.bind_eq_ok_iff.mp h
    obtain ⟨-, -, h⟩ := Outcome.bind_eq_ok_iff.mp h
    cases h
    rcases hname with rfl | rfl
    · obtain ⟨table, -, heq⟩ := Outcome.bind_eq_ok_iff.mp hcommand
      cases heq
      exact ⟨_, rfl⟩
    · obtain ⟨table, -, heq⟩ := Outcome.bind_eq_ok_iff.mp hcommand
      cases heq
      exact ⟨_, rfl⟩

/-- A command line of a command that reads records sends the catalog statement and the selection
from the table, and no other request. Words that cannot be parsed, or that ask for help, send none.
-/
theorem reading_commands_only_read (host : Host) (s : Settings) (w : Wire)
    {words rest : List String} {name : String}
    (hwords : Invocation.read words = .ok (.command name rest))
    (hname : name = "find-all" ∨ name = "count") :
    match Command.read host.files name rest with
    | .ok (some c) => ∃ i, c.inquiry? = some i ∧
        Inquires host s i w (run host (.ok s) words w)
    | _ => (run host (.ok s) words w).wire = w := by
  obtain ⟨hunset, hset⟩ := run_of_words hwords host s w
  cases hcommand : Command.read host.files name rest with
  | ok command =>
    cases command with
    | some c =>
      obtain ⟨i, hi⟩ := exists_inquiry_of_read hname hcommand
      obtain ⟨o, print, hreads, hprint, hfails, hexecute⟩ := exists_execute_eq hi host
      have heffect : executeWords host s name rest w = c.execute host s w := by
        simp only [executeWords, hcommand]
      have hgiven : ∀ fields, Gives i.filter fields →
          readObject queryOption.name i.filter = .ok fields := fun fields =>
        gives_iff_readObject.mpr
      refine ⟨i, hi, fun f hf => ?_, fun configuration hconfigured hnone => ?_,
        fun configuration hconfigured fields hfields f hclient => ?_,
        fun configuration hconfigured fields hfields client hclient => ?_⟩
      · rw [hunset f hf]
        exact failedFirst_of_setUp hf w
      · obtain ⟨fault, hfault⟩ := exists_readObject_eq queryOption.name hnone
        rw [hset configuration hconfigured, heffect, hfails _ hfault]
        exact ⟨fault, ⟨rfl, rfl⟩, rfl⟩
      · rw [hset configuration hconfigured, heffect, hexecute fields (hgiven fields hfields)]
        exact failedFirst_of_ofSettings hclient configuration w _
      · rw [hset configuration hconfigured, heffect, hexecute fields (hgiven fields hfields),
          withClient, hclient]
        exact onlyReads_of_effect (isOpen_of_ofSettings hclient) hreads hprint host (some s)
          configuration s.debug fields w
    | none =>
      rcases setUp_cases s with hf | ⟨configuration, hconfigured⟩
      · simp only [hunset _ hf]
        rfl
      · simp only [hset configuration hconfigured, executeWords, hcommand]
        rfl
  | error f =>
    rcases setUp_cases s with hf | ⟨configuration, hconfigured⟩
    · simp only [hunset _ hf]
      rfl
    · simp only [hset configuration hconfigured, executeWords, hcommand]
      rfl

/-- Settings with provisioning on. -/
def openSettings : Settings :=
  ⟨"a", "d", "t", "http://h", .ofInt 30, true, false, false, "test", "INFO", false⟩

/-- The body of an answer with one row. -/
def rowBody (row : Fields Value) : Value :=
  .object [("success", .bool true), ("result", .list [.object [("results", .list [.object row])]])]

/-- The body of an answer that lists one table. -/
def listingBody : Value := rowBody [("name", .text "post")]

def listingWire : Wire := .ofReplies [.response 200 (Document.compact listingBody)]

def listedFields : Fields Value := [("a", .object [("==", .int 1)])]

def listedWords : List String := ["post", "--query", Document.compact (.object listedFields)]

/-- A host without files, whose HTTP library accepts every address. -/
def bareHost : Host := ⟨80, fun _ => .nothing, fun _ => none, fun _ => Main.complaint⟩

def openClient : Client := ⟨Settings.dropLastSlashes openSettings.databaseUrl, "t", true⟩

/-- A listed table is read by one more request, and one that is not listed is reported, although the
settings have provisioning on. -/
theorem reading_commands_only_read_listing :
    (run bareHost (.ok openSettings) ("find-all" :: listedWords) listingWire).wire.requests =
      [catalogRequest openClient,
        ⟨(catalogRequest openClient).url, "Bearer t",
          .object [("sql", .text "SELECT * \nFROM post \nWHERE a = ?"),
            ("params", .list [.int 1])]⟩] ∧
    (run bareHost (.ok openSettings) ["count", "user"] listingWire).ending =
      ⟨"", "Error: Table user not found\n", .ok 1⟩ := by
  have hresult : ∃ r, Client.resultOf catalogSql (Client.nextReply listingWire) = .ok r ∧
      r.tableNames = [.text "post"] :=
    ⟨_, Client.resultOf_compact listingBody (by decide) rfl rfl, rfl⟩
  obtain ⟨r, hresult, hnames⟩ := hresult
  have htexts : ∀ name ∈ r.tableNames, name.isText = true := by simp [hnames, Value.isText]
  have hkeys : ∀ name ∈ r.tableNames, name.key?.isSome = true := by simp [hnames, Value.key?]
  have hfields : Gives (Document.compact (.object listedFields)) listedFields :=
    Or.inr ⟨by decide, Document.read_compact (by decide)⟩
  have hclient : Client.ofSettings bareHost.addressFault? openSettings = .ok openClient := rfl
  constructor
  · have hwords : Invocation.read ("find-all" :: listedWords) =
        .ok (.command "find-all" listedWords) := rfl
    obtain ⟨i, hi, hread⟩ :=
      reading_commands_only_read bareHost openSettings listingWire hwords (.inl rfl)
    cases hi
    exact (hread.reads _ rfl _ hfields openClient hclient).listed r hresult hkeys
      (by simp [hnames])
  · have hwords : Invocation.read ["count", "user"] = .ok (.command "count" ["user"]) := rfl
    obtain ⟨i, hi, hread⟩ :=
      reading_commands_only_read bareHost openSettings listingWire hwords (.inr rfl)
    cases hi
    exact (hread.reads _ rfl [] (.inl ⟨rfl, rfl⟩) openClient hclient).unlisted r hresult htexts
      (by simp [hnames])

end CommandLine

end SqlBridge
