import SqlBridge.Proofs.Adapter.Report
import SqlBridge.Proofs.Query.Change
import SqlBridge.Proofs.TableSet

/-!
The reading back of an update. After its change has been answered an update sends one read, and the
record of its reply is the first row of the answer. The read selects by the id of the call, even
when the change writes another id.
-/

namespace SqlBridge.Adapter

open Sql

variable {σ α : Type} {answer : Executor σ} {source : MapperSource} {m : Schema.Mapper}
  {w : World σ} {past future : List Exchange} {e : Exchange}

/-- Exchanges that only provision tables. -/
def Provisional (es : List Exchange) : Prop := ∀ e ∈ es, Remote.isProvisioning e.call.sql = true

/-- With a known table no exchange is needed to ensure it. -/
theorem reaches_known (hm : source.resolve = .ok m) (k : Schema.Mapper → Task α)
    (hknown : w.registry.known.contains (.text m.tableName) = true) :
    Task.Reaches answer (prepare source >>= k) w [] (k m) w.beginSeed := by
  obtain ⟨sql, hsql, -⟩ := m.exists_createTable
  rw [prepare_bind hm, Registry.ensureMapper_bind hsql]
  constructor
  · simp only [Task.run, World.registry_beginSeed, if_pos hknown]
  · simp only [Task.history, World.registry_beginSeed, if_pos hknown, List.nil_append]

/-- A task that ensures its table continues with the table known, or fails. In both cases all
exchanges before that are provisionings. -/
theorem prepare_cases (answer : Executor σ) (hm : source.resolve = .ok m)
    (k : Schema.Mapper → Task α) (w : World σ) :
    (∃ opening after, Task.Reaches answer (prepare source >>= k) w opening (k m) after ∧
        Provisional opening ∧ after.registry.known.contains (.text m.tableName) = true) ∨
      (Provisional ((prepare source >>= k).history answer w) ∧
        ∃ f, ((prepare source >>= k).run answer w).1 = .error f) := by
  by_cases hknown : w.registry.known.contains (.text m.tableName) = true
  · exact .inl ⟨[], w.beginSeed, reaches_known hm k hknown, by simp [Provisional],
      by rwa [World.registry_beginSeed]⟩
  obtain ⟨sql, hsql, -⟩ := m.exists_createTable
  have hprovisions : Remote.isProvisioning sql = true :=
    Schema.Mapper.isProvisioning_createTable hsql
  rw [prepare_bind hm, Registry.ensureMapper_bind hsql]
  by_cases hauto : w.registry.autocreate = true
  · cases hcall : answer ⟨sql, []⟩ w.remote with
    | mk o remote =>
      cases o with
      | error f =>
        right
        simp only [Task.history, Task.run, World.registry_beginSeed, if_neg hknown, if_pos hauto,
          World.remote_note, World.remote_beginSeed, hcall]
        exact ⟨by simpa [Provisional] using hprovisions, f, rfl⟩
      | ok r =>
        left
        let sent : World σ := { (w.beginSeed.note
          (Registry.tableEntry "Creating table" m.tableName [])).record ⟨sql, []⟩ with remote }
        let after : World σ := (sent.note (Registry.tableEntry "Table created" m.tableName
          [("sql", .text sql)])).learn [.text m.tableName]
        have hlearned : after.registry.known.contains (.text m.tableName) = true :=
          TableSet.contains_insertAll_of_mem List.mem_cons_self
        refine ⟨[⟨⟨sql, []⟩, w.registry, .ok r⟩], after, ⟨?_, ?_⟩,
          by simpa [Provisional] using hprovisions, hlearned⟩
        · simp only [Task.run, World.registry_beginSeed, if_neg hknown, if_pos hauto,
            World.remote_note, World.remote_beginSeed, hcall]
          rfl
        · simp only [Task.history, World.registry_beginSeed, World.registry_note, if_neg hknown,
            if_pos hauto, World.remote_note, World.remote_beginSeed, hcall]
          rfl
  · right
    simp only [Task.history, Task.run, World.registry_beginSeed, if_neg hknown, if_neg hauto]
    exact ⟨by simp [Provisional], _, rfl⟩

/-- A statement cannot be rendered, or is refused, or the task continues with its answer. -/
theorem execute_cases (answer : Executor σ) (statement : Outcome Statement)
    (k : Remote.QueryResult → Task α) (w : World σ) :
    (∃ f, (statement >>= Statement.render) = .error f ∧
        (execute statement >>= k).history answer w = [] ∧
        ((execute statement >>= k).run answer w).1 = .error f) ∨
      ∃ f, (statement >>= Statement.render) = .ok f ∧
        ((∃ g, (execute statement >>= k).history answer w =
              [⟨⟨f.text, f.params⟩, w.registry, .error g⟩] ∧
            ((execute statement >>= k).run answer w).1 = .error g) ∨
          ∃ r after, Task.Reaches answer (execute statement >>= k) w
              [⟨⟨f.text, f.params⟩, w.registry, .ok r⟩] (k r) after ∧
            after.registry = w.registry) := by
  cases hwritten : (statement >>= Statement.render) with
  | error f =>
    have hexecute : execute statement >>= k = .fail f := by
      unfold execute
      change (Task.ofOutcome (statement >>= Statement.render) >>= _) >>= k = _
      rw [hwritten]
      rfl
    rw [hexecute]
    exact .inl ⟨f, rfl, rfl, rfl⟩
  | ok f =>
    rw [execute_bind hwritten]
    refine .inr ⟨f, rfl, ?_⟩
    cases hcall : answer ⟨f.text, f.params⟩ w.remote with
    | mk o remote =>
      cases o with
      | error g =>
        left
        simp only [Task.history, Task.run, hcall]
        exact ⟨g, rfl, rfl⟩
      | ok r =>
        right
        refine ⟨r, { w.record ⟨f.text, f.params⟩ with remote }, ⟨?_, ?_⟩, rfl⟩
        · simp only [Task.run, hcall]
        · simp only [Task.history, hcall]
          rfl

/-- A data statement is not a provisioning statement. -/
theorem isProvisioning_of_written {statement : Outcome Statement} {f : Fragment Value}
    (h : (statement >>= Statement.render) = .ok f) : Remote.isProvisioning f.text = false := by
  obtain ⟨s, -, hrender⟩ := Outcome.bind_eq_ok_iff.mp h
  exact Statement.isProvisioning_render hrender

/-- The row returned by a read of one record, null when there is none. -/
def rowRead (r : Remote.QueryResult) : Value := (r.rows.head?.map Value.object).getD .null

theorem mem_of_rowRead {r : Remote.QueryResult} {row : Fields Value}
    (h : rowRead r = .object row) : row ∈ r.rows := by
  unfold rowRead at h
  cases hrows : r.rows with
  | nil =>
    rw [hrows] at h
    cases h
  | cons first rest =>
    rw [hrows] at h
    cases h
    exact List.mem_cons_self

/-- The continuation of a read of one record after its exchange. -/
def reportFound (dbg : Bool) (k : Reply → Task α) (r : Remote.QueryResult) : Task α :=
  debug dbg "_find result" [("found", .bool r.rows.head?.isSome)] >>= fun _ =>
    k ⟨rowRead r, r.metadata⟩

theorem find_bind (dbg : Bool) (source : MapperSource) (id : Value) (k : Reply → Task α) :
    find dbg source id >>= k = prepare source >>= fun m =>
      debug dbg "_find" [("mapper", .text m.name), ("id", id)] >>= fun _ =>
        execute (findStatement m id) >>= reportFound dbg k := by
  unfold find
  simp only [Task.bind_assoc]
  rfl

/-- With a known table, a read of one record reaches its statement without an exchange. -/
theorem exists_reaches_reading (answer : Executor σ) (dbg : Bool) (id : Value)
    (k : Reply → Task α)
    (hknown : w.registry.known.contains (.text m.tableName) = true) :
    ∃ after, Task.Reaches answer (find dbg (.ready m) id >>= k) w []
      (execute (findStatement m id) >>= reportFound dbg k) after := by
  have hready : (MapperSource.ready m).resolve = .ok m := rfl
  rw [find_bind]
  obtain ⟨opened, hdebug, -⟩ := exists_reaches_debug answer dbg "_find"
    [("mapper", .text m.name), ("id", id)]
    (fun _ => execute (findStatement m id) >>= reportFound dbg k) w.beginSeed
  exact ⟨opened, (reaches_known hready _ hknown).silently hdebug⟩

theorem exists_reaches_found (answer : Executor σ) (dbg : Bool) (k : Reply → Task α)
    (r : Remote.QueryResult) (w : World σ) :
    ∃ after, Task.Reaches answer (reportFound dbg k r) w [] (k ⟨rowRead r, r.metadata⟩) after := by
  obtain ⟨after, hdebug, -⟩ := exists_reaches_debug answer dbg "_find result"
    [("found", .bool r.rows.head?.isSome)] (fun _ => k ⟨rowRead r, r.metadata⟩) w
  exact ⟨after, hdebug⟩

/-- With a known table, a read of one record that can be rendered is one exchange, and the task
continues with the row that was found. -/
theorem exists_reading (dbg : Bool) {id : Value} {f : Fragment Value}
    (hwritten : (findStatement m id >>= Statement.render) = .ok f)
    (hknown : w.registry.known.contains (.text m.tableName) = true) {k : Reply → Task α}
    (hsilent : ∀ reply (after : World σ), (k reply).history answer after = []) :
    ∃ reading, (find dbg (.ready m) id >>= k).history answer w = [reading] ∧
      reading.call = ⟨f.text, f.params⟩ ∧
      ∀ b, ((find dbg (.ready m) id >>= k).run answer w).1 = .ok b →
        ∃ found after, reading.answer = .ok found ∧
          ((k ⟨rowRead found, found.metadata⟩).run answer after).1 = .ok b := by
  obtain ⟨opened, hopened⟩ := exists_reaches_reading answer dbg id k hknown
  rw [hopened.history_eq, hopened.run_eq, List.nil_append]
  rcases execute_cases answer (findStatement m id) (reportFound dbg k) opened with
    ⟨g, hunwritten, -⟩ | ⟨f', hwritten', hcases⟩
  · rw [hwritten] at hunwritten
    cases hunwritten
  · rw [hwritten] at hwritten'
    cases hwritten'
    rcases hcases with ⟨g, hhistory, hrun⟩ | ⟨found, after, hsent, -⟩
    · refine ⟨_, hhistory, rfl, fun b hb => ?_⟩
      rw [hrun] at hb
      cases hb
    · obtain ⟨last, hlast⟩ := exists_reaches_found answer dbg k found after
      have hreached := hsent.silently hlast
      rw [hreached.history_eq, hreached.run_eq, hsilent, List.append_nil]
      exact ⟨_, rfl, rfl, fun b hb => ⟨found, last, rfl, hb⟩⟩

/-- A task that succeeds after reading a record has rendered the read. -/
theorem exists_written_of_run {dbg : Bool} {id : Value} {k : Reply → Task α} {b : α}
    (hknown : w.registry.known.contains (.text m.tableName) = true)
    (h : ((find dbg (.ready m) id >>= k).run answer w).1 = .ok b) :
    ∃ f, (findStatement m id >>= Statement.render) = .ok f := by
  obtain ⟨opened, hopened⟩ := exists_reaches_reading answer dbg id k hknown
  rw [hopened.run_eq] at h
  rcases execute_cases answer (findStatement m id) (reportFound dbg k) opened with
    ⟨g, -, -, hrun⟩ | ⟨f, hwritten, -⟩
  · rw [hrun] at h
    cases h
  · exact ⟨f, hwritten⟩

/-- The call that reads the record with an id. -/
def readCall (m : Schema.Mapper) (id : Value) : Call :=
  ⟨"SELECT * \nFROM " ++ identifier m.tableName ++ " \nWHERE " ++ identifier m.idAttribute
      ++ " = ?\n LIMIT ? OFFSET ?", [id, .int 1, .int 0]⟩

theorem readCall_inj {id id' : Value} : readCall m id = readCall m id' ↔ id = id' := by
  constructor
  · intro h
    exact (List.cons.inj (Call.mk.inj h).2).1
  · rintro rfl
    rfl

/-- The read of a record can always be rendered. -/
theorem render_findStatement (m : Schema.Mapper) {id : Value} (hid : id.isScalar = true) :
    (findStatement m id >>= Statement.render) =
      .ok ⟨(readCall m id).sql, (readCall m id).params⟩ := by
  have hidentified : identified m id = .ok (.compare (.named m.idAttribute) .equal id) := by
    simp [identified, Criteria.comparison_of_isScalar hid]
  have htext : (readCall m id).sql = "SELECT " ++ "*" ++ " \nFROM " ++ identifier m.tableName ++
      (" \nWHERE " ++ (identifier m.idAttribute ++ " " ++ "=" ++ " " ++ "?")) ++ "" ++
        "\n LIMIT ? OFFSET ?" := by
    unfold readCall
    generalize identifier m.tableName = table
    generalize identifier m.idAttribute = column
    simp [String.append_assoc]
  unfold findStatement
  rw [hidentified, htext, Outcome.ok_bind, Outcome.pure_eq_ok, Outcome.ok_bind,
    Statement.render_select]
  rfl

/-- The id of a record after its change. -/
def idAfter (m : Schema.Mapper) (id : Value) (fields : Fields Value) : Value :=
  (fields.get? m.idAttribute).getD id

/-- The change of a record, with the new values before the id of the condition. -/
def changeStatement (m : Schema.Mapper) (id : Value) (fields : Fields Value) : Statement :=
  .update m.tableName (boundFields fields)
    (.satisfying [.compare (.named m.idAttribute) .equal id])

theorem updateStatement_eq_changeStatement (m : Schema.Mapper) {id : Value}
    (hid : id.isScalar = true) (fields : Fields Value) :
    updateStatement m id (.object fields) = .ok (changeStatement m id fields) :=
  (updateStatement_eq m hid fields).trans rfl

/-- The continuation of an update after its reading. -/
def reportChanged (dbg : Bool) (metadata : Fields Value) (record : Reply) : Task Reply :=
  Task.ofOutcome (reportsChanges metadata) >>= fun updated =>
    debug dbg "_update result" [("updated", .bool updated)] >>= fun _ =>
      pure ⟨record.data, metadata⟩

theorem history_reportChanged (dbg : Bool) (metadata : Fields Value) (record : Reply)
    (w : World σ) : (reportChanged dbg metadata record).history answer w = [] := by
  unfold reportChanged
  cases reportsChanges metadata with
  | error f => rfl
  | ok updated => cases dbg <;> rfl

theorem reply_of_reportChanged {dbg : Bool} {metadata : Fields Value} {record reply : Reply}
    (h : ((reportChanged dbg metadata record).run answer w).1 = .ok reply) :
    reply = ⟨record.data, metadata⟩ := by
  unfold reportChanged at h
  cases hchanges : reportsChanges metadata with
  | error f =>
    rw [hchanges] at h
    cases h
  | ok updated =>
    rw [hchanges, Task.run_bind_ok (Task.run_ofOutcome (.ok updated) w),
      Task.run_bind_ok (run_debug _ _ _ _)] at h
    exact (Except.ok.inj h).symm

/-- An update consists of its opening, its change, a reading and its reply. -/
theorem update_eq (dbg : Bool) (source : MapperSource) (id : Value) {fields : Fields Value}
    (hne : fields ≠ []) :
    update dbg source id (.object fields) = prepare source >>= fun m =>
      debug dbg "_update" [("mapper", .text m.name), ("id", id), ("props", .object fields)] >>=
        fun _ => execute (updateStatement m id (.object fields)) >>= fun result =>
          find dbg (.ready m) id >>= reportChanged dbg result.metadata := by
  unfold update
  rw [requireChanges_of_ne_nil source hne]
  rfl

/-- An update fails before its change is answered, or continues after its change, with its table
known and only provisionings before the change. -/
theorem update_cases (answer : Executor σ) (hm : source.resolve = .ok m) (dbg : Bool) (id : Value)
    {fields : Fields Value} (hne : fields ≠ []) (w : World σ) :
    ((∃ f, ((update dbg source id (.object fields)).run answer w).1 = .error f) ∧
        ∀ e ∈ (update dbg source id (.object fields)).history answer w,
          Remote.isProvisioning e.call.sql = true ∨ ∃ g, e.answer = .error g) ∨
      ∃ opening f change r changed, Provisional opening ∧
        (updateStatement m id (.object fields) >>= Statement.render) = .ok f ∧
        change.call = ⟨f.text, f.params⟩ ∧ change.answer = .ok r ∧
        Task.Reaches answer (update dbg source id (.object fields)) w (opening ++ [change])
          (find dbg (.ready m) id >>= reportChanged dbg r.metadata) changed ∧
        changed.registry.known.contains (.text m.tableName) = true := by
  rw [update_eq dbg source id hne]
  rcases prepare_cases answer hm (fun m =>
      debug dbg "_update" [("mapper", .text m.name), ("id", id), ("props", .object fields)] >>=
        fun _ => execute (updateStatement m id (.object fields)) >>= fun result =>
          find dbg (.ready m) id >>= reportChanged dbg result.metadata) w with
    ⟨opening, prepared, hprepared, hopening, hknown⟩ | ⟨hprovisional, hfailed⟩
  · obtain ⟨opened, hdebug, hregistry⟩ := exists_reaches_debug answer dbg "_update"
      [("mapper", .text m.name), ("id", id), ("props", .object fields)]
      (fun _ => execute (updateStatement m id (.object fields)) >>= fun result =>
        find dbg (.ready m) id >>= reportChanged dbg result.metadata) prepared
    have hopened := hprepared.silently hdebug
    rcases execute_cases answer (updateStatement m id (.object fields))
        (fun result => find dbg (.ready m) id >>= reportChanged dbg result.metadata) opened with
      ⟨g, -, hhistory, hrun⟩ | ⟨f, hwritten, ⟨g, hhistory, hrun⟩ | ⟨r, changed, hsent, hsame⟩⟩
    · left
      rw [hopened.history_eq, hopened.run_eq, hhistory, List.append_nil]
      exact ⟨⟨g, hrun⟩, fun e he => .inl (hopening e he)⟩
    · left
      rw [hopened.history_eq, hopened.run_eq, hhistory]
      refine ⟨⟨g, hrun⟩, fun e he => ?_⟩
      rcases List.mem_append.mp he with he | he
      · exact .inl (hopening e he)
      · rw [List.mem_singleton.mp he]
        exact .inr ⟨g, rfl⟩
    · exact .inr ⟨opening, f, _, r, changed, hopening, hwritten, rfl, rfl, hopened.trans hsent,
        by rwa [hsame, hregistry]⟩
  · exact .inl ⟨hfailed, fun e he => .inl (hprovisional e he)⟩

/-- The first exchange of a history that is not a provisioning is unique. -/
theorem first_data_unique {past past' future future' : List Exchange} {e e' : Exchange}
    (h : past ++ e :: future = past' ++ e' :: future') (hpast : Provisional past)
    (hpast' : Provisional past') (he : Remote.isProvisioning e.call.sql = false)
    (he' : Remote.isProvisioning e'.call.sql = false) :
    past = past' ∧ e = e' ∧ future = future' := by
  induction past generalizing past' with
  | nil =>
    cases past' with
    | nil =>
      obtain ⟨rfl, rfl⟩ := List.cons_eq_cons.mp h
      exact ⟨rfl, rfl, rfl⟩
    | cons p rest =>
      obtain ⟨rfl, -⟩ := List.cons_eq_cons.mp h
      rw [hpast' _ List.mem_cons_self] at he
      cases he
  | cons p rest ih =>
    cases past' with
    | nil =>
      obtain ⟨rfl, -⟩ := List.cons_eq_cons.mp h
      rw [hpast _ List.mem_cons_self] at he'
      cases he'
    | cons p' rest' =>
      obtain ⟨rfl, hrest⟩ := List.cons_eq_cons.mp h
      obtain ⟨rfl, heq⟩ := ih hrest (fun q hq => hpast q (List.mem_cons_of_mem _ hq))
        fun q hq => hpast' q (List.mem_cons_of_mem _ hq)
      exact ⟨rfl, heq⟩

/-- Whether the rows of an answer all have an id. -/
def AllHave (m : Schema.Mapper) (id : Value) (found : Remote.QueryResult) : Prop :=
  ∀ row ∈ found.rows, row.get? m.idAttribute = some id

/-- An update reads back by the id of the call. After its change has been answered, one exchange is
left: the read of the record with that id, whatever the change has written. It is the read of the
record as it is after the change exactly when the change keeps the id, and only then can the
returned row be the changed record, if the remote side answers with rows that satisfy the condition.
-/
theorem update_reads_back (hm : source.resolve = .ok m) {id : Value} (hid : id.isScalar = true)
    {fields : Fields Value} (hne : fields ≠ []) (answer : Executor σ) (w : World σ) (dbg : Bool)
    {r : Remote.QueryResult}
    (hhistory : ((Operation.update id (.object fields)).task dbg source).history answer w =
      past ++ e :: future)
    (hpast : Provisional past)
    (hdata : Remote.isProvisioning e.call.sql = false) (hok : e.answer = .ok r) :
    (∃ f, (changeStatement m id fields).render = .ok f ∧ e.call = ⟨f.text, f.params⟩) ∧
      ∃ reading, future = [reading] ∧ reading.call = readCall m id ∧
        (reading.call = readCall m (idAfter m id fields) ↔ idAfter m id fields = id) ∧
        ∀ reply, (((Operation.update id (.object fields)).task dbg source).run answer w).1 =
            .ok reply →
          ∃ found, reading.answer = .ok found ∧ reply = ⟨rowRead found, r.metadata⟩ ∧
            (AllHave m id found → ∀ row : Fields Value, reply.data = .object row →
              (row.get? m.idAttribute = some (idAfter m id fields) ↔
                idAfter m id fields = id)) := by
  change (update dbg source id (.object fields)).history answer w = _ at hhistory
  change _ ∧ ∃ reading, _ ∧ _ ∧ _ ∧ ∀ reply,
    ((update dbg source id (.object fields)).run answer w).1 = .ok reply → _
  rcases update_cases answer hm dbg id hne w with
    ⟨-, hunanswered⟩ | ⟨opening, f, change, r', changed, hopening, hwritten, hcall, hchange,
      hreaches, hknown⟩
  · -- Nothing but provisioning is answered in an update that does not get past its change.
    rcases hunanswered e (by simp [hhistory]) with hprovisions | ⟨g, hg⟩
    · rw [hdata] at hprovisions
      cases hprovisions
    · rw [hok] at hg
      cases hg
  rw [hreaches.history_eq, List.append_assoc, List.singleton_append] at hhistory
  obtain ⟨rfl, rfl, hrest⟩ := first_data_unique hhistory hopening hpast
    (by rw [hcall]; exact isProvisioning_of_written hwritten) hdata
  rw [hok] at hchange
  cases hchange
  rw [updateStatement_eq_changeStatement m hid, Outcome.ok_bind] at hwritten
  refine ⟨⟨f, hwritten, hcall⟩, ?_⟩
  obtain ⟨reading, hreading, hread, hend⟩ :=
    exists_reading dbg (render_findStatement m hid) hknown (history_reportChanged dbg r.metadata)
  rw [hrest] at hreading
  refine ⟨reading, hreading, hread, ?_, fun reply hreply => ?_⟩
  · rw [hread, eq_comm]
    exact readCall_inj
  · rw [hreaches.run_eq] at hreply
    obtain ⟨found, after, hfound, hdone⟩ := hend reply hreply
    have hreply := reply_of_reportChanged hdone
    refine ⟨found, hfound, hreply, fun hall row hrow => ?_⟩
    have hmem : row ∈ found.rows := by
      rw [hreply] at hrow
      exact mem_of_rowRead hrow
    rw [hall row hmem, Option.some_inj, eq_comm]

/-- A remote side with one user, whose id is 8 after any change. -/
def eighthUser : Executor Unit := fun call _ =>
  match call.params with
  | [.int 8, .int 1, .int 0] => (.ok ⟨[[("_id", .int 8), ("n", .int 1)]], [], none, []⟩, ())
  | _ => (.ok ⟨[], [("changes", .int 1)], none, []⟩, ())

def userWorld : World Unit := newWorld () false false ["user"]

theorem update_reads_back_eighthUser :
    ∃ (changed reading : Exchange) (reply : Reply),
      ((Operation.update (.int 8) (.object [("n", .int 1)])).task false
        (.ready userTable)).history eighthUser userWorld = [changed, reading] ∧
      changed.call = ⟨"UPDATE user SET n=? WHERE _id = ?", [.int 1, .int 8]⟩ ∧
      reading.call = readCall userTable (idAfter userTable (.int 8) [("n", .int 1)]) ∧
      (((Operation.update (.int 8) (.object [("n", .int 1)])).task false
        (.ready userTable)).run eighthUser userWorld).1 = .ok reply ∧
      reply.data = .object [("_id", .int 8), ("n", .int 1)] := by
  have hresolve : (MapperSource.ready userTable).resolve = .ok userTable := rfl
  have hne : ([("n", .int 1)] : Fields Value) ≠ [] := by simp
  have hhistory : ((Operation.update (.int 8) (.object [("n", .int 1)])).task false
      (.ready userTable)).history eighthUser userWorld =
        [] ++ ⟨⟨"UPDATE user SET n=? WHERE _id = ?", [.int 1, .int 8]⟩, _, _⟩ :: [_] := rfl
  have hnone : Provisional [] := by simp [Provisional]
  obtain ⟨-, reading, hfuture, -, hsame, -⟩ :=
    update_reads_back hresolve rfl hne eighthUser userWorld false hhistory hnone (by decide) rfl
  cases hfuture
  exact ⟨_, _, _, rfl, rfl, hsame.mpr rfl, rfl, rfl⟩

/-- A change that writes another id is followed by a read of the former id, so the reply is null for
a record that exists. -/
theorem moved_record_not_read :
    ¬∀ (id : Value) (fields : Fields Value), id.isScalar = true →
      (idAfter userTable id fields).isScalar = true → fields ≠ [] →
        let run := ((Operation.update id (.object fields)).task false (.ready userTable)).run
          eighthUser userWorld
        (∃ reply, run.1 = .ok reply) →
          ∃ changed, run.2.calls = [changed, readCall userTable (idAfter userTable id fields)] := by
  intro h
  obtain ⟨changed, hcalls⟩ :=
    h (.int 7) [("_id", .int 8), ("n", .int 1)] rfl rfl (by simp) ⟨⟨.null, _⟩, rfl⟩
  have hsent : [(⟨"UPDATE user SET _id=?, n=? WHERE _id = ?", [.int 8, .int 1, .int 7]⟩ : Call),
      readCall userTable (.int 7)] = [changed, readCall userTable (.int 8)] := hcalls
  have hsame : readCall userTable (.int 7) = readCall userTable (.int 8) :=
    (List.cons.inj (List.cons.inj hsent).2).1
  exact absurd (readCall_inj.mp hsame) (by simp)

end SqlBridge.Adapter
