import SqlBridge.Adapter.Session
import SqlBridge.Proofs.Adapter.Answering
import SqlBridge.Proofs.Adapter.Statements
import SqlBridge.Proofs.Registry.Calls
import SqlBridge.Proofs.Task.Reach

/-!
The metadata in replies. When all its calls are answered, an operation returns the metadata of its
first data statement unchanged, for any rows and any metadata. The change and the removal of one
record also inspect the number of changed rows, and fail when the metadata holds something else than
a number there, although the statement has been executed.
-/

namespace SqlBridge.Adapter

open Sql

variable {σ α : Type} {answer : Executor σ}

/-- A debug record needs no exchange and keeps the registry. -/
theorem exists_reaches_debug (answer : Executor σ) (enabled : Bool) (message : String)
    (fields : Fields Value) (k : Unit → Task α) (w : World σ) :
    ∃ after, Task.Reaches answer (debug enabled message fields >>= k) w [] (k ()) after ∧
      after.registry = w.registry := by
  cases enabled with
  | true => exact ⟨_, .note _ (k ()) w, rfl⟩
  | false => exact ⟨w, ⟨rfl, rfl⟩, rfl⟩

/-- With provisioning on and all calls answered, a task continues after ensuring a table, with only
provisionings before. -/
theorem exists_reaches_ensureMapper (m : Schema.Mapper) {k : Unit → Task α} {w : World σ}
    (hauto : w.registry.autocreate = true)
    (hanswered : Task.Answered answer (Registry.ensureMapper m >>= k) w) :
    ∃ past after, Task.Reaches answer (Registry.ensureMapper m >>= k) w past (k ()) after ∧
      (∀ e ∈ past, Remote.isProvisioning e.call.sql = true) ∧
      after.registry.autocreate = true := by
  obtain ⟨sql, hsql, -⟩ := m.exists_createTable
  have hensure := Registry.ensureMapper_bind hsql k
  by_cases hknown : w.registry.known.contains (.text m.tableName) = true
  · refine ⟨[], w, ⟨?_, ?_⟩, by simp, hauto⟩
    · simp only [hensure, Task.run, hknown, if_true]
    · simp only [hensure, Task.history, hknown, if_true, List.nil_append]
  · -- Up to the call nothing is heard; its answer is what the rest waits for.
    have hcall : Task.Reaches answer (Registry.ensureMapper m >>= k) w [] (.send ⟨sql, []⟩ fun _ =>
        .note (Registry.tableEntry "Table created" m.tableName [("sql", .text sql)])
          (.learn [.text m.tableName] (k ())))
        (w.note (Registry.tableEntry "Creating table" m.tableName [])) := by
      rw [hensure]
      refine (Task.Reaches.look _ w).trans ?_
      rw [if_neg hknown, if_pos hauto]
      exact .note _ _ _
    obtain ⟨r, remote, hsent⟩ := Task.Reaches.send (hcall.answered hanswered)
    have hlearned := hsent.trans ((Task.Reaches.note _ _ _).trans (Task.Reaches.learn _ _ _))
    refine ⟨_, _, hcall.trans hlearned, ?_, hauto⟩
    intro e he
    simp only [List.nil_append, List.append_nil, List.mem_singleton] at he
    rw [he]
    exact Schema.Mapper.isProvisioning_createTable hsql

/-- The continuation of preparing an operation follows the ensuring of its table. -/
theorem prepare_bind {source : MapperSource} {m : Schema.Mapper} (hm : source.resolve = .ok m)
    (k : Schema.Mapper → Task α) :
    prepare source >>= k = .beginSeed (Registry.ensureMapper m >>= fun _ => k m) := by
  change Task.beginSeed ((Task.ofOutcome source.resolve >>= fun m =>
    Registry.ensureMapper m >>= fun _ => pure m) >>= k) = _
  rw [hm, Task.bind_assoc]
  exact congrArg Task.beginSeed (Task.bind_assoc ..)

theorem exists_reaches_prepare {source : MapperSource} {m : Schema.Mapper}
    (hm : source.resolve = .ok m) (k : Schema.Mapper → Task α) {w : World σ}
    (hauto : w.registry.autocreate = true)
    (hanswered : Task.Answered answer (prepare source >>= k) w) :
    ∃ past after, Task.Reaches answer (prepare source >>= k) w past (k m) after ∧
      (∀ e ∈ past, Remote.isProvisioning e.call.sql = true) ∧
      after.registry.autocreate = true := by
  rw [prepare_bind hm] at hanswered ⊢
  have hbegun : Task.Reaches answer _ w [] _ w.beginSeed :=
    .beginSeed (Registry.ensureMapper m >>= fun _ => k m) w
  rw [← World.registry_beginSeed w] at hauto
  obtain ⟨past, after, hensured, hpast, hstill⟩ :=
    exists_reaches_ensureMapper m hauto (hbegun.answered hanswered)
  exact ⟨past, after, hbegun.trans hensured, hpast, hstill⟩

/-- An operation continues after its opening. -/
theorem exists_reaches_opening {source : MapperSource} {m : Schema.Mapper}
    (hm : source.resolve = .ok m) (dbg : Bool) (message : String)
    (fields : Schema.Mapper → Fields Value) (k : Schema.Mapper → Task α) {w : World σ}
    (hauto : w.registry.autocreate = true)
    (hanswered : Task.Answered answer
      (prepare source >>= fun m => debug dbg message (fields m) >>= fun _ => k m) w) :
    ∃ past after, Task.Reaches answer
        (prepare source >>= fun m => debug dbg message (fields m) >>= fun _ => k m) w past (k m)
        after ∧
      (∀ e ∈ past, Remote.isProvisioning e.call.sql = true) ∧
      after.registry.autocreate = true := by
  obtain ⟨past, prepared, hprepared, hpast, hstill⟩ :=
    exists_reaches_prepare hm _ hauto hanswered
  obtain ⟨after, hdebug, hregistry⟩ :=
    exists_reaches_debug answer dbg message (fields m) (fun _ => k m) prepared
  exact ⟨past, after, hprepared.silently hdebug, hpast, by rw [hregistry, hstill]⟩

/-- An answered statement is one exchange. -/
theorem exists_reaches_execute {statement : Outcome Statement} {f : Fragment Value}
    (hwritten : (statement >>= Statement.render) = .ok f) {k : Remote.QueryResult → Task α}
    {w : World σ} (hanswered : Task.Answered answer (execute statement >>= k) w) :
    ∃ r after, Task.Reaches answer (execute statement >>= k) w
        [⟨⟨f.text, f.params⟩, w.registry, .ok r⟩] (k r) after ∧
      after.registry = w.registry := by
  rw [execute_bind hwritten] at hanswered ⊢
  obtain ⟨r, remote, hsent⟩ := Task.Reaches.send hanswered
  exact ⟨r, _, hsent, rfl⟩

/-- Whether the metadata has a number of changed rows, or none. -/
def countsChanges (metadata : Fields Value) : Bool :=
  match Value.field metadata "changes" with
  | .text s => s.isEmpty
  | .list items => items.isEmpty
  | .object fields => fields.isEmpty
  | _ => true

theorem exists_reportsChanges_eq {metadata : Fields Value} (h : countsChanges metadata = true) :
    ∃ changed, reportsChanges metadata = .ok changed := by
  unfold countsChanges at h
  unfold reportsChanges
  cases hv : Value.field metadata "changes" <;> simp_all [Value.truthy]

theorem reportsChanges_eq_error {metadata : Fields Value} (h : countsChanges metadata = false) :
    reportsChanges metadata = .error (.wrongType "") := by
  unfold countsChanges at h
  unfold reportsChanges
  cases hv : Value.field metadata "changes" <;> simp_all [Value.truthy]

/-- The end of an operation with metadata: success with the metadata unchanged, unless the operation
inspects the changed rows and they are not a number. -/
def EndsWith (looks : Bool) (metadata : Fields Value) (o : Outcome Reply) : Prop :=
  if looks = true ∧ countsChanges metadata = false then o = .error (.wrongType "")
  else ∃ data, o = .ok ⟨data, metadata⟩

theorem endsWith_report (dbg : Bool) (message : String) (fields : Fields Value) (data : Value)
    (metadata : Fields Value) (w : World σ) :
    EndsWith false metadata ((debug dbg message fields >>= fun _ =>
      pure (⟨data, metadata⟩ : Reply)).run answer w).1 := by
  rw [EndsWith, if_neg (by simp), Task.run_bind_ok (run_debug _ _ _ _)]
  exact ⟨data, rfl⟩

theorem endsWith_changes (dbg : Bool) (message : String) (fields : Bool → Fields Value)
    (data : Value) (metadata : Fields Value) (w : World σ) :
    EndsWith true metadata ((Task.ofOutcome (reportsChanges metadata) >>= fun changed =>
      debug dbg message (fields changed) >>= fun _ => pure (⟨data, metadata⟩ : Reply)).run
        answer w).1 := by
  rw [EndsWith]
  cases hcounts : countsChanges metadata with
  | false =>
    rw [if_pos ⟨rfl, rfl⟩, reportsChanges_eq_error hcounts]
    rfl
  | true =>
    obtain ⟨changed, hchanged⟩ := exists_reportsChanges_eq hcounts
    rw [if_neg (by simp), hchanged, Task.run_bind_ok (Task.run_ofOutcome (.ok changed) w),
      Task.run_bind_ok (run_debug _ _ _ _)]
    exact ⟨data, rfl⟩

/-- A task that sends at most provisionings before a call, and ends with the metadata of its answer.
-/
def Relays (answer : Executor σ) (t : Task Reply) (w : World σ) (call : Call) (looks : Bool) :
    Prop :=
  ∃ past e future r, t.history answer w = past ++ e :: future ∧
    (∀ p ∈ past, Remote.isProvisioning p.call.sql = true) ∧ e.call = call ∧ e.answer = .ok r ∧
    EndsWith looks r.metadata (t.run answer w).1

variable {source : MapperSource} {m : Schema.Mapper} {w : World σ} {looks dbg : Bool}
  {f : Fragment Value}

/-- A task relays the metadata of a statement if its continuation ends with it. -/
theorem relays_of_reaches {t : Task Reply} {past : List Exchange} {opened : World σ}
    {statement : Outcome Statement} {k : Remote.QueryResult → Task Reply}
    (hwritten : (statement >>= Statement.render) = .ok f)
    (hanswered : Task.Answered answer t w)
    (h : Task.Reaches answer t w past (execute statement >>= k) opened)
    (hpast : ∀ p ∈ past, Remote.isProvisioning p.call.sql = true)
    (hends : ∀ r after, after.registry = opened.registry → Task.Answered answer (k r) after →
      EndsWith looks r.metadata ((k r).run answer after).1) :
    Relays answer t w ⟨f.text, f.params⟩ looks := by
  obtain ⟨r, after, hsent, hregistry⟩ := exists_reaches_execute hwritten (h.answered hanswered)
  have hend := hends r after hregistry (hsent.answered (h.answered hanswered))
  rw [← hsent.run_eq, ← h.run_eq] at hend
  refine ⟨past, ⟨⟨f.text, f.params⟩, opened.registry, .ok r⟩, (k r).history answer after, r, ?_,
    hpast, rfl, rfl, hend⟩
  rw [h.history_eq, hsent.history_eq, List.singleton_append]

/-- An operation that compiles a query relays the metadata of its statement. -/
theorem relays_of_query (hm : source.resolve = .ok m)
    {statement : Schema.Mapper → Criteria → Outcome Statement} {query : Value}
    (hwritten : ((Criteria.empty.compile query >>= statement m) >>= Statement.render) = .ok f)
    (hauto : w.registry.autocreate = true) {message report : String}
    {fields : Schema.Mapper → Fields Value} {reported : Remote.QueryResult → Fields Value}
    {data : Remote.QueryResult → Value}
    (hanswered : Task.Answered answer (prepare source >>= fun m => debug dbg message (fields m) >>=
      fun _ => compiled query >>= fun c => execute (statement m c) >>= fun r =>
        debug dbg report (reported r) >>= fun _ => pure (⟨data r, r.metadata⟩ : Reply)) w) :
    Relays answer (prepare source >>= fun m => debug dbg message (fields m) >>=
      fun _ => compiled query >>= fun c => execute (statement m c) >>= fun r =>
        debug dbg report (reported r) >>= fun _ => pure (⟨data r, r.metadata⟩ : Reply)) w
      ⟨f.text, f.params⟩ false := by
  obtain ⟨s, hs, hrender⟩ := Outcome.bind_eq_ok_iff.mp hwritten
  obtain ⟨c, hcompile, hstatement⟩ := Outcome.bind_eq_ok_iff.mp hs
  obtain ⟨past, opened, hopened, hpast, -⟩ :=
    exists_reaches_opening hm dbg message fields _ hauto hanswered
  have hcompiled := hopened.silently (.ofOutcome hcompile)
  have hw : (statement m c >>= Statement.render) = .ok f := by rw [hstatement]; exact hrender
  exact relays_of_reaches hw hanswered hcompiled hpast fun r after _ _ =>
    endsWith_report dbg report (reported r) (data r) r.metadata after

/-- The reading of a record succeeds when it is answered. -/
theorem exists_run_find {id : Value} (hm : source.resolve = .ok m)
    (hwritten : (findStatement m id >>= Statement.render) = .ok f)
    (hauto : w.registry.autocreate = true)
    (hanswered : Task.Answered answer (find dbg source id) w) :
    ∃ reply after, (find dbg source id).run answer w = (.ok reply, after) := by
  obtain ⟨past, opened, hopened, -, -⟩ := exists_reaches_opening hm dbg "_find" _ _ hauto hanswered
  obtain ⟨r, after, hsent, -⟩ := exists_reaches_execute hwritten (hopened.answered hanswered)
  exact ⟨_, _, (hopened.trans hsent).run_eq.trans (Task.run_bind_ok (run_debug _ _ _ _))⟩

/-- An insertion of rows relays the metadata of its statement. -/
theorem relays_createMany {rows : Value} {n : Nat} {columns : List String}
    {values : List (List Value)} (hm : source.resolve = .ok m) (hrows : rows.truthy = true)
    (hsize : size rows = .ok n) (hnew : newRows (rows.members?.getD []) = .ok (columns, values))
    (hrender : (Statement.insert m.tableName columns values).render = .ok f)
    (hauto : w.registry.autocreate = true)
    (hanswered : Task.Answered answer (createMany dbg source rows) w) :
    Relays answer (createMany dbg source rows) w ⟨f.text, f.params⟩ false := by
  obtain ⟨past, prepared, hprepared, hpast, -⟩ := exists_reaches_prepare hm _ hauto hanswered
  have hcounted := hprepared.silently (.ofOutcome hsize)
  obtain ⟨opened, hdebug, -⟩ := exists_reaches_debug answer dbg "_create_many"
    [("mapper", .text m.name), ("count", .int n)] _ prepared
  have hopened := hcounted.silently hdebug
  rw [if_pos hrows] at hopened
  have hread := hopened.silently (.ofOutcome hnew)
  have hwritten : ((.ok (.insert m.tableName columns values) : Outcome Statement) >>=
      Statement.render) = .ok f := hrender
  exact relays_of_reaches hwritten hanswered hread hpast fun r after _ _ =>
    endsWith_report dbg _ _ _ r.metadata after

/-- A change of all records selected by a query relays the metadata of its statement. -/
theorem relays_updateAll {props query : Value} (hm : source.resolve = .ok m)
    (hprops : props.truthy = true)
    (hwritten : (updateAllStatement m props query >>= Statement.render) = .ok f)
    (hauto : w.registry.autocreate = true)
    (hanswered : Task.Answered answer (updateAll dbg source props query) w) :
    Relays answer (updateAll dbg source props query) w ⟨f.text, f.params⟩ false := by
  have hrequire : requireChanges source props = pure () := if_pos hprops
  rw [updateAll, hrequire] at hanswered ⊢
  obtain ⟨past, opened, hopened, hpast, -⟩ :=
    exists_reaches_opening hm dbg "_update_all" _ _ hauto hanswered
  exact relays_of_reaches hwritten hanswered hopened hpast fun r after _ _ =>
    endsWith_report dbg _ _ _ r.metadata after

/-- A change of a record relays the metadata of the change, after reading the record back. -/
theorem relays_update {id props : Value} {back : Fragment Value} (hm : source.resolve = .ok m)
    (hprops : props.truthy = true)
    (hwritten : (updateStatement m id props >>= Statement.render) = .ok f)
    (hback : (findStatement m id >>= Statement.render) = .ok back)
    (hauto : w.registry.autocreate = true)
    (hanswered : Task.Answered answer (update dbg source id props) w) :
    Relays answer (update dbg source id props) w ⟨f.text, f.params⟩ true := by
  have hrequire : requireChanges source props = pure () := if_pos hprops
  rw [update, hrequire] at hanswered ⊢
  obtain ⟨past, opened, hopened, hpast, hstill⟩ :=
    exists_reaches_opening hm dbg "_update" _ _ hauto hanswered
  refine relays_of_reaches hwritten hanswered hopened hpast fun r after hregistry hrest => ?_
  have hready : (MapperSource.ready m).resolve = .ok m := rfl
  -- The reading is answered as well, so the changed rows are inspected.
  obtain ⟨record, final, hfound⟩ :=
    exists_run_find hready hback (by rw [hregistry, hstill]) hrest.first
  rw [(Task.Reaches.of_run hfound).run_eq]
  exact endsWith_changes dbg _ _ _ r.metadata final

/-- The operations with metadata of a single statement: all except many updates and an insertion of
no rows. -/
def Operation.reports : Operation → Bool
  | .updateMany _ => false
  | .createMany rows => rows.truthy
  | _ => true

/-- The operations that inspect the number of changed rows. -/
def Operation.looksForChanges : Operation → Bool
  | .update _ _ => true
  | .destroy _ => true
  | _ => false

/-- All statements of an operation can be rendered. -/
def Operation.Writable (m : Schema.Mapper) (o : Operation) : Prop :=
  ∀ s ∈ o.statements m, ∃ f, (s >>= Statement.render) = .ok f

/-- The first statement of an operation is its first call. -/
theorem Operation.Writable.exists_head {o : Operation} {statement : Outcome Statement}
    {rest : List (Outcome Statement)} (h : o.Writable m)
    (hstatements : o.statements m = statement :: rest) :
    ∃ f, (statement >>= Statement.render) = .ok f ∧
      (writable (o.statements m)).head? = some ⟨f.text, f.params⟩ := by
  rw [Operation.Writable, hstatements] at h
  obtain ⟨f, hwritten⟩ := h statement List.mem_cons_self
  refine ⟨f, hwritten, ?_⟩
  rw [hstatements, writable, hwritten]
  rfl

/-- An operation relays the metadata of its first data statement. -/
theorem exists_relays_task (hm : source.resolve = .ok m) {o : Operation}
    (hreports : o.reports = true) (hwritable : o.Writable m) (hauto : w.registry.autocreate = true)
    (hanswered : Task.Answered answer (o.task dbg source) w) :
    ∃ call, (writable (o.statements m)).head? = some call ∧
      Relays answer (o.task dbg source) w call o.looksForChanges := by
  cases o with
  | count query =>
    obtain ⟨f, hwritten, hhead⟩ := hwritable.exists_head rfl
    exact ⟨_, hhead, relays_of_query hm hwritten hauto hanswered⟩
  | findAll query =>
    obtain ⟨f, hwritten, hhead⟩ := hwritable.exists_head rfl
    exact ⟨_, hhead, relays_of_query hm hwritten hauto hanswered⟩
  | sum field query =>
    obtain ⟨f, hwritten, hhead⟩ := hwritable.exists_head rfl
    exact ⟨_, hhead, relays_of_query hm hwritten hauto hanswered⟩
  | destroyAll query =>
    obtain ⟨f, hwritten, hhead⟩ := hwritable.exists_head rfl
    exact ⟨_, hhead, relays_of_query hm hwritten hauto hanswered⟩
  | find id =>
    obtain ⟨f, hwritten, hhead⟩ := hwritable.exists_head rfl
    obtain ⟨past, opened, hopened, hpast, -⟩ :=
      exists_reaches_opening hm dbg "_find" _ _ hauto hanswered
    exact ⟨_, hhead, relays_of_reaches hwritten hanswered hopened hpast
      fun r after _ _ => endsWith_report dbg _ _ _ r.metadata after⟩
  | destroy id =>
    obtain ⟨f, hwritten, hhead⟩ := hwritable.exists_head rfl
    obtain ⟨past, opened, hopened, hpast, -⟩ :=
      exists_reaches_opening hm dbg "_destroy" _ _ hauto hanswered
    exact ⟨_, hhead, relays_of_reaches hwritten hanswered hopened hpast
      fun r after _ _ => endsWith_changes dbg _ _ _ r.metadata after⟩
  | create props =>
    obtain ⟨f, hwritten, hhead⟩ := hwritable.exists_head rfl
    obtain ⟨s, hs, hrender⟩ := Outcome.bind_eq_ok_iff.mp hwritten
    obtain ⟨record, hrecord, heq⟩ := Outcome.bind_eq_ok_iff.mp hs
    cases heq
    obtain ⟨past, opened, hopened, hpast, -⟩ :=
      exists_reaches_opening hm dbg "_create" _ _ hauto hanswered
    have hread := hopened.silently (.ofOutcome hrecord)
    exact ⟨_, hhead, relays_of_reaches hrender hanswered hread hpast
      fun r after _ _ => endsWith_report dbg _ _ _ r.metadata after⟩
  | createMany rows =>
    have hrows : rows.truthy = true := hreports
    obtain ⟨f, hwritten, hhead⟩ := hwritable.exists_head (if_pos hrows)
    obtain ⟨s, hs, hrender⟩ := Outcome.bind_eq_ok_iff.mp hwritten
    obtain ⟨n, hsize, hs⟩ := Outcome.bind_eq_ok_iff.mp hs
    obtain ⟨⟨columns, values⟩, hnew, heq⟩ := Outcome.bind_eq_ok_iff.mp hs
    cases heq
    exact ⟨_, hhead, relays_createMany hm hrows hsize hnew hrender hauto hanswered⟩
  | update id props =>
    by_cases hprops : props.truthy = true
    · have hstatements : (Operation.update id props).statements m =
          [updateStatement m id props, findStatement m id] := if_pos hprops
      obtain ⟨f, hwritten, hhead⟩ := hwritable.exists_head hstatements
      obtain ⟨back, hback⟩ := hwritable (findStatement m id) (by simp [hstatements])
      exact ⟨_, hhead, relays_update hm hprops hwritten hback hauto hanswered⟩
    · obtain ⟨f, hwritten, -⟩ := hwritable.exists_head (if_neg hprops)
      cases hwritten
  | updateAll props query =>
    obtain ⟨f, hwritten, hhead⟩ := hwritable.exists_head rfl
    by_cases hprops : props.truthy = true
    · rw [if_pos hprops] at hwritten
      exact ⟨_, hhead, relays_updateAll hm hprops hwritten hauto hanswered⟩
    · rw [if_neg hprops] at hwritten
      cases hwritten
  | updateMany records => cases hreports

/-- Metadata is passed through. For an operation with a valid mapper and statements that can be
rendered, with provisioning on and every call answered, only provisionings precede the data
statement, and the operation succeeds with the metadata of its answer unchanged, for any metadata
and rows. Only a change and a removal of one record need a number of changed rows in the metadata,
if any; otherwise they fail after the statement has been executed. -/
theorem report_passed_through (answer : Executor σ) (hm : source.resolve = .ok m) {o : Operation}
    (hreports : o.reports = true) (hwritable : o.Writable m) (options : Options)
    (report : Option Bool) (hauto : w.registry.autocreate = true)
    (hanswered : Task.Answered answer (o.task options.debug source) w) :
    ∃ past e future r, (o.task options.debug source).history answer w = past ++ e :: future ∧
      (∀ p ∈ past, Remote.isProvisioning p.call.sql = true) ∧
      (writable (o.statements m)).head? = some e.call ∧ e.answer = .ok r ∧
      ((o.looksForChanges = true → countsChanges r.metadata = true) →
        ∃ data, ((o.task options.debug source).run answer w).1 = .ok ⟨data, r.metadata⟩ ∧
          (options.reports report = true →
            options.respond report o ⟨data, r.metadata⟩ = .reported o.name data r.metadata)) ∧
      (o.looksForChanges = true → countsChanges r.metadata = false →
        ((o.task options.debug source).run answer w).1 = .error (.wrongType "")) := by
  obtain ⟨call, hcall, past, e, future, r, hhistory, hpast, rfl, hr, hend⟩ :=
    exists_relays_task hm hreports hwritable hauto hanswered
  refine ⟨past, e, future, r, hhistory, hpast, hcall, hr, fun hcounts => ?_,
    fun hlooks hcounts => ?_⟩
  · rw [EndsWith, if_neg (by simp_all)] at hend
    obtain ⟨data, hdata⟩ := hend
    exact ⟨data, hdata, fun hreport => if_pos hreport⟩
  · rwa [EndsWith, if_pos ⟨hlooks, hcounts⟩] at hend

/-- The answer without rows that has the given metadata. -/
def reportAlone (metadata : Fields Value) : Remote.QueryResult := ⟨[], metadata, none, []⟩

def reporting (metadata : Fields Value) : Executor Unit :=
  fun _ _ => (.ok (reportAlone metadata), ())

theorem answered_reporting (metadata : Fields Value) (t : Task α) (w : World Unit) :
    Task.Answered (reporting metadata) t w :=
  Task.forall_answer_history (p := fun o => ∃ r, o = .ok r) (fun _ _ => ⟨_, rfl⟩) t w

/-- Metadata that counts no change, with a list as row id. -/
def oddReport : Fields Value := [("changes", .int 0), ("last_row_id", .list [.null])]

def userTable : Schema.Mapper := .ofName "User"

/-- A change of one record in an unknown table. -/
def firstChange : Operation := .update (.int 7) (.object [("n", .int 1)])

theorem writable_firstChange : firstChange.Writable userTable := by
  intro s hs
  rcases List.mem_cons.mp hs with rfl | hs
  · exact ⟨_, rfl⟩
  · rw [List.mem_singleton.mp hs]
    exact ⟨_, rfl⟩

theorem report_passed_through_odd :
    firstChange.reports = true ∧ firstChange.Writable userTable ∧
      countsChanges oddReport = true ∧
      ∃ past e future r data,
        (firstChange.task true (.ready userTable)).history (reporting oddReport)
          (newWorld () true true []) = past ++ e :: future ∧
        e.call = ⟨"UPDATE user SET n=? WHERE _id = ?", [.int 1, .int 7]⟩ ∧
        e.answer = .ok r ∧ r.metadata = oddReport ∧
        ((firstChange.task true (.ready userTable)).run (reporting oddReport)
          (newWorld () true true [])).1 = .ok ⟨data, r.metadata⟩ := by
  have hresolve : (MapperSource.ready userTable).resolve = .ok userTable := rfl
  obtain ⟨past, e, future, r, hhistory, -, hcall, hr, hsuccess, -⟩ :=
    report_passed_through (reporting oddReport) hresolve (o := firstChange) rfl
      writable_firstChange ⟨true, true⟩ none (w := newWorld () true true []) rfl
      (answered_reporting oddReport _ _)
  have hanswer := Task.forall_answer_history (p := fun o => o = .ok (reportAlone oddReport))
    (fun _ _ => rfl) _ _ e (hhistory ▸ List.mem_append_right past List.mem_cons_self)
  have hreport : r = reportAlone oddReport := by
    rw [hr] at hanswer
    exact Except.ok.inj hanswer
  subst hreport
  obtain ⟨data, hdata, -⟩ := hsuccess fun _ => rfl
  exact ⟨rfl, writable_firstChange, rfl, past, e, future, _, data, hhistory,
    (Option.some.inj hcall).symm, hr, rfl, hdata⟩

/-- A removal whose number of changed rows is a text fails after it has been executed. -/
theorem textual_changes_fail :
    ¬∀ (metadata : Fields Value) (o : Operation), o.reports = true → o.Writable userTable →
      let run := (o.task false (.ready userTable)).run (reporting metadata)
        (newWorld () true true ["user"])
      run.2.calls = writable (o.statements userTable) →
        ∃ data, run.1 = .ok ⟨data, metadata⟩ := by
  intro h
  have hwritable : (Operation.destroy (.int 7)).Writable userTable := by
    intro s hs
    rw [List.mem_singleton.mp hs]
    exact ⟨_, rfl⟩
  obtain ⟨data, hdata⟩ := h [("changes", .text "1")] (.destroy (.int 7)) rfl hwritable rfl
  cases hdata

end SqlBridge.Adapter
