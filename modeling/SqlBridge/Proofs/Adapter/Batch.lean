import SqlBridge.Proofs.Adapter.Discipline
import SqlBridge.Proofs.Adapter.ReadBack

/-!
Many updates compared with single updates. Updating a list of records has the exchanges, the
registry and the outcome of updating each record by its own id, one after another, up to the first
failure. Without a failure there are one row and one metadata entry for each record.
-/

namespace SqlBridge

variable {σ α : Type} {answer : Executor σ}

theorem World.beginSeed_log (w : World σ) (log : List Log.Entry) :
    ({ w with log } : World σ).beginSeed = { w.beginSeed with log } := by
  obtain ⟨remote, registry, seed, calls, log'⟩ := w
  cases seed <;> rfl

/-- The log does not influence the run of a task. -/
theorem Task.exists_run_log (answer : Executor σ) (t : Task α) (w : World σ)
    (log : List Log.Entry) :
    (∃ log', t.run answer { w with log } =
        ((t.run answer w).1, { (t.run answer w).2 with log := log' })) ∧
      t.history answer { w with log } = t.history answer w := by
  induction t generalizing w log with
  | done a => exact ⟨⟨log, rfl⟩, rfl⟩
  | fail f => exact ⟨⟨log, rfl⟩, rfl⟩
  | send call next ih =>
    simp only [run, history]
    cases answer call w.remote with
    | mk o remote =>
      cases o with
      | error f => exact ⟨⟨log, rfl⟩, rfl⟩
      | ok r =>
        obtain ⟨hrun, hhistory⟩ := ih r { w.record call with remote } log
        exact ⟨hrun, congrArg _ hhistory⟩
  | look next ih => exact ih w.registry w log
  | learn names next ih => exact ih (w.learn names) log
  | beginSeed next ih =>
    simp only [run, history, World.beginSeed_log]
    exact ih w.beginSeed log
  | note e next ih => exact ih (w.note e) (log ++ [e])

namespace Adapter

open Sql

variable {source : MapperSource} {m : Schema.Mapper} {w : World σ}

/-- A series of operations: the replies of those that succeeded, the failure of the last one if it
failed, the exchanges, and the final world. -/
structure Series (σ : Type) where
  replies : List Reply
  failure : Option Failure
  heard : List Exchange
  after : World σ

def Series.outcome (s : Series σ) : Outcome (List Reply) :=
  match s.failure with
  | none => .ok s.replies
  | some f => .error f

/-- Runs operations one after another, up to the first failure. -/
def inTurn (answer : Executor σ) (dbg : Bool) (source : MapperSource) :
    List Operation → World σ → Series σ
  | [], w => ⟨[], none, [], w⟩
  | o :: rest, w =>
    let heard := (o.task dbg source).history answer w
    match (o.task dbg source).run answer w with
    | (.ok reply, after) =>
      let s := inTurn answer dbg source rest after
      ⟨reply :: s.replies, s.failure, heard ++ s.heard, s.after⟩
    | (.error f, after) => ⟨[], some f, heard, after⟩

/-- The update of a record by its own id, null when it has none. -/
def updateOf (m : Schema.Mapper) (record : Fields Value) : Operation :=
  .update (Value.field record m.idAttribute) (.object record)

/-- The update depends only on the mapper to which its source resolves. -/
theorem update_eq_ready (dbg : Bool) (hm : source.resolve = .ok m) (id props : Value) :
    update dbg source id props = update dbg (.ready m) id props := by
  have hready : (MapperSource.ready m).resolve = .ok m := rfl
  unfold update requireChanges prepare
  rw [hm, hready]

/-- The updates of a list have the outcome, the exchanges and the world of the updates in turn. -/
theorem updateEach_in_turn (answer : Executor σ) (dbg : Bool) (hm : source.resolve = .ok m)
    (records : List (Fields Value)) (w : World σ) :
    let s := inTurn answer dbg source (records.map (updateOf m)) w
    (updateEach dbg m (records.map .object)).run answer w = (s.outcome, s.after) ∧
      (updateEach dbg m (records.map .object)).history answer w = s.heard := by
  induction records generalizing w with
  | nil => exact ⟨rfl, rfl⟩
  | cons record rest ih =>
    have hupdate : updateEach dbg m ((record :: rest).map .object) =
        (updateOf m record).task dbg source >>= fun reply =>
          updateEach dbg m (rest.map .object) >>= fun replies => pure (reply :: replies) := by
      change update dbg (.ready m) _ _ >>= _ = update dbg source _ _ >>= _
      rw [update_eq_ready dbg hm]
    simp only [List.map_cons, inTurn] at hupdate ⊢
    rw [hupdate, Task.run_bind, Task.history_bind]
    cases hrun : ((updateOf m record).task dbg source).run answer w with
    | mk o after =>
      cases o with
      | error f => exact ⟨rfl, List.append_nil _⟩
      | ok reply =>
        obtain ⟨hrest, hheard⟩ := ih after
        simp only [Task.run_bind, Task.history_bind, hrest, hheard, Series.outcome]
        cases (inTurn answer dbg source (rest.map (updateOf m)) after).failure with
        | none => exact ⟨rfl, congrArg _ (List.append_nil _)⟩
        | some f => exact ⟨rfl, congrArg _ (List.append_nil _)⟩

/-- The exchanges of a successful update: at most a provisioning, then the change and the reading of
its record, both answered. Its reply is the row that was read, with the metadata of the change. -/
def CarriedOut (m : Schema.Mapper) (record : Fields Value) (reply : Reply) (es : List Exchange) :
    Prop :=
  ∃ opening change reading r found, es = opening ++ [change, reading] ∧ Provisional opening ∧
    writable ((updateOf m record).statements m) = [change.call, reading.call] ∧
    change.answer = .ok r ∧ reading.answer = .ok found ∧ reply = ⟨rowRead found, r.metadata⟩

/-- Records updated one after another, with their replies and exchanges. -/
inductive AllCarriedOut (m : Schema.Mapper) :
    List (Fields Value) → List Reply → List Exchange → Prop
  | nil : AllCarriedOut m [] [] []
  | cons {record : Fields Value} {records : List (Fields Value)} {reply : Reply}
    {replies : List Reply} {es more : List Exchange} (h : CarriedOut m record reply es)
    (hrest : AllCarriedOut m records replies more) :
    AllCarriedOut m (record :: records) (reply :: replies) (es ++ more)

/-- A successful update has been carried out. -/
theorem carriedOut_of_run (hm : source.resolve = .ok m) {dbg : Bool} {record : Fields Value}
    {reply : Reply} (h : (((updateOf m record).task dbg source).run answer w).1 = .ok reply) :
    CarriedOut m record reply (((updateOf m record).task dbg source).history answer w) := by
  have hne : record ≠ [] := by
    rintro rfl
    change ((requireChanges source (.object []) >>= fun _ => _).run answer w).1 = _ at h
    have hrequire : requireChanges source (.object []) = .fail (.emptyUpdate m.tableName) := by
      unfold requireChanges
      rw [hm]
      rfl
    rw [hrequire] at h
    cases h
  change ((update dbg source _ (.object record)).run answer w).1 = .ok reply at h
  change CarriedOut m record reply ((update dbg source _ (.object record)).history answer w)
  rcases update_cases answer hm dbg (Value.field record m.idAttribute) hne w with
    ⟨⟨f, hf⟩, -⟩ | ⟨opening, f, change, r, changed, hopening, hwritten, hcall, hchange, hreaches,
      hknown⟩
  · rw [hf] at h
    cases h
  rw [hreaches.run_eq] at h
  obtain ⟨back, hback⟩ := exists_written_of_run hknown h
  obtain ⟨reading, hreading, hread, hend⟩ :=
    exists_reading dbg hback hknown (history_reportChanged dbg r.metadata)
  obtain ⟨found, after, hfound, hdone⟩ := hend reply h
  rw [hreaches.history_eq, hreading, List.append_assoc]
  refine ⟨opening, change, reading, r, found, rfl, hopening, ?_, hchange, hfound,
    reply_of_reportChanged hdone⟩
  have htruthy : (Value.object record).truthy = true := by
    simpa [Value.truthy] using hne
  change writable (changeStatements m _ (.object record)) = _
  simp only [changeStatements, if_pos htruthy, writable, hwritten, hback, hcall, hread]

/-- In the updates of records in turn those that succeeded have been carried out. If one failed, its
calls are a prefix of its statements, and no later one has any calls. -/
theorem exists_carriedOut (answer : Executor σ) (dbg : Bool) (hm : source.resolve = .ok m)
    (records : List (Fields Value)) (w : World σ) :
    let s := inTurn answer dbg source (records.map (updateOf m)) w
    ∃ done later es last, records = done ++ later ∧ AllCarriedOut m done s.replies es ∧
      s.heard = es ++ last ∧
      (s.failure = none → later = [] ∧ last = []) ∧
      ∀ f, s.failure = some f → ∃ record rest, later = record :: rest ∧
        dataCalls (last.map Exchange.call) <+: writable ((updateOf m record).statements m) := by
  induction records generalizing w with
  | nil => exact ⟨[], [], [], [], rfl, .nil, rfl, fun _ => ⟨rfl, rfl⟩,
    fun f hf => absurd hf (by simp [inTurn])⟩
  | cons record rest ih =>
    simp only [List.map_cons, inTurn]
    cases hrun : ((updateOf m record).task dbg source).run answer w with
    | mk o after =>
      cases o with
      | error f =>
        refine ⟨[], record :: rest, [], _, rfl, .nil, rfl, fun hnone => absurd hnone (by simp),
          fun g _ => ⟨record, rest, rfl, ?_⟩⟩
        have hcourse := course_task answer dbg source (updateOf m record) w
        rw [hm, Operation.statementsOf] at hcourse
        exact hcourse.dataCalls_begin
      | ok reply =>
        obtain ⟨done, later, es, last, hrest, hdone, hheard, hnone, hsome⟩ := ih after
        have hcarried := carriedOut_of_run hm (congrArg Prod.fst hrun)
        refine ⟨record :: done, later, _, last, by rw [hrest, List.cons_append],
          .cons hcarried hdone, ?_, hnone, hsome⟩
        rw [List.append_assoc, ← hheard]

theorem AllCarriedOut.length_eq {records : List (Fields Value)} {replies : List Reply}
    {es : List Exchange} (h : AllCarriedOut m records replies es) :
    replies.length = records.length := by
  induction h with
  | nil => rfl
  | cons _ _ ih => simp [ih]

/-- The reply of many updates: the rows in order, and the metadata in the same order. -/
def batchReply (replies : List Reply) : Reply :=
  ⟨.list (replies.map (·.data)), [("updates", .list (replies.map fun r => .object r.metadata))]⟩

/-- A debug record changes the log only. -/
theorem exists_run_debug (answer : Executor σ) (enabled : Bool) (message : String)
    (fields : Fields Value) (w : World σ) :
    ∃ log, (debug enabled message fields).run answer w = (.ok (), { w with log }) ∧
      (debug enabled message fields).history answer w = [] := by
  cases enabled with
  | true => exact ⟨_, rfl, rfl⟩
  | false => exact ⟨w.log, rfl, rfl⟩

/-- Many updates run as the updates of the records in turn, and return all their replies at once. -/
theorem exists_run_updateMany (answer : Executor σ) (dbg : Bool) (hm : source.resolve = .ok m)
    (records : List (Fields Value)) (w : World σ) :
    let s := inTurn answer dbg source (records.map (updateOf m)) w
    (∃ log, (updateMany dbg source (.list (records.map .object))).run answer w =
        (s.outcome.map batchReply, { s.after with log })) ∧
      (updateMany dbg source (.list (records.map .object))).history answer w = s.heard := by
  obtain ⟨hrun, hhistory⟩ := updateEach_in_turn answer dbg hm records w
  generalize inTurn answer dbg source (records.map (updateOf m)) w = s at hrun hhistory ⊢
  have htask : updateMany dbg source (.list (records.map .object)) =
      debug dbg "_update_many" [("mapper", .text m.name),
        ("count", .int ((records.map Value.object).length : Nat))] >>= fun _ =>
          updateEach dbg m (records.map .object) >>= fun replies =>
            debug dbg "_update_many result" [("count", .int replies.length)] >>= fun _ =>
              pure (batchReply replies) := by
    unfold updateMany
    rw [hm]
    rfl
  obtain ⟨log, hopening, hsilent⟩ := exists_run_debug answer dbg "_update_many"
    [("mapper", .text m.name), ("count", .int ((records.map Value.object).length : Nat))] w
  -- The opening log record does not influence the updates.
  obtain ⟨⟨log', hlogged⟩, hheard⟩ :=
    Task.exists_run_log answer (updateEach dbg m (records.map .object)) w log
  rw [hrun] at hlogged
  rw [hhistory] at hheard
  simp only [htask, Task.run_bind, Task.history_bind, hopening, hsilent, hlogged, hheard,
    List.nil_append]
  cases houtcome : s.outcome with
  | error f => exact ⟨⟨log', rfl⟩, List.append_nil _⟩
  | ok replies =>
    obtain ⟨log'', hreport, hquiet⟩ := exists_run_debug answer dbg
      "_update_many result" [("count", .int replies.length)] { s.after with log := log' }
    simp only [hreport, hquiet, List.nil_append]
    exact ⟨⟨log'', rfl⟩, List.append_nil _⟩

/-- Many updates have the exchanges and the world, up to the log, of the updates of the records in
turn, up to and including the first that fails. Without a failure the reply has one row and one
metadata entry for each record, in order, the entry being that of its change. Otherwise the failure
is that of the failing update; the records before it have been updated, its calls are a prefix of
its statements, and no later record has any calls. -/
theorem updateMany_in_turn (answer : Executor σ) (dbg : Bool) (hm : source.resolve = .ok m)
    (records : List (Fields Value)) (w : World σ) :
    let t := (Operation.updateMany (.list (records.map .object))).task dbg source
    let s := inTurn answer dbg source (records.map (updateOf m)) w
    t.history answer w = s.heard ∧
      (∃ log, (t.run answer w).2 = { s.after with log }) ∧
      ∃ done later es last, records = done ++ later ∧ AllCarriedOut m done s.replies es ∧
        s.replies.length = done.length ∧ s.heard = es ++ last ∧
        (s.failure = none → later = [] ∧ last = [] ∧
          (t.run answer w).1 = .ok ⟨.list (s.replies.map (·.data)),
            [("updates", .list (s.replies.map fun r => .object r.metadata))]⟩) ∧
        ∀ f, s.failure = some f → (t.run answer w).1 = .error f ∧
          ∃ record rest, later = record :: rest ∧
            dataCalls (last.map Exchange.call) <+:
              writable ((updateOf m record).statements m) := by
  obtain ⟨⟨log, hrun⟩, hhistory⟩ := exists_run_updateMany answer dbg hm records w
  obtain ⟨done, later, es, last, hrecords, hdone, hheard, hnone, hsome⟩ :=
    exists_carriedOut answer dbg hm records w
  have htask : (Operation.updateMany (.list (records.map .object))).task dbg source =
      updateMany dbg source (.list (records.map .object)) := rfl
  simp only [htask, hrun, hhistory, true_and]
  refine ⟨⟨log, rfl⟩, done, later, es, last, hrecords, hdone, hdone.length_eq, hheard,
    fun hfailure => ?_, fun f hfailure => ?_⟩
  · obtain ⟨hlater, hlast⟩ := hnone hfailure
    refine ⟨hlater, hlast, ?_⟩
    rw [Series.outcome, hfailure]
    rfl
  · refine ⟨?_, hsome f hfailure⟩
    rw [Series.outcome, hfailure]
    rfl

/-- Two records, of which the change of the second is refused. -/
def halfwayList : List (Fields Value) :=
  [[("_id", .int 1), ("title", .text "a")], [("_id", .int 2), ("title", .text "b")]]

/-- When the change of the second record is refused, the first has been updated. -/
theorem updateMany_in_turn_halfway :
    (MapperSource.described (.text "Post")).resolve = .ok (.ofName "Post") ∧
      ∃ reply f, (inTurn Remote.Script.answer false (.described (.text "Post"))
          (halfwayList.map (updateOf (.ofName "Post"))) halfwayWorld).replies = [reply] ∧
        ((halfwayRecords.task false (.described (.text "Post"))).run Remote.Script.answer
          halfwayWorld).1 = .error f ∧
        ((halfwayRecords.task false (.described (.text "Post"))).history Remote.Script.answer
          halfwayWorld).map (fun e => Remote.isProvisioning e.call.sql) =
            [true, false, false, false] := by
  have hresolve : (MapperSource.described (.text "Post")).resolve = .ok (.ofName "Post") := rfl
  obtain ⟨hheard, -, done, later, es, last, -, -, -, -, -, hsome⟩ :=
    updateMany_in_turn Remote.Script.answer false hresolve halfwayList halfwayWorld
  obtain ⟨hfailed, -⟩ := hsome _ rfl
  exact ⟨hresolve, _, _, rfl, hfailed, (congrArg _ hheard).trans (by decide +kernel)⟩

end Adapter

end SqlBridge
