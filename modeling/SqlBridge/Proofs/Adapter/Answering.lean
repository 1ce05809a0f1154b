import SqlBridge.Proofs.Adapter.Sending

/-!
Replies of the operations that send one statement. After the table has been ensured, the reply is
determined by the answer to that statement.
-/

namespace SqlBridge.Adapter

open Sql

variable {σ : Type} {answer : Executor σ} {f : Fragment Value} {r : Remote.QueryResult}

/-- Executing a statement that can be rendered sends it. -/
theorem execute_eq_request {statement : Outcome Statement}
    (hwritten : (statement >>= fun s => s.render) = .ok f) :
    execute statement = Task.request ⟨f.text, f.params⟩ := by
  unfold execute
  change (Task.ofOutcome (statement >>= fun s => s.render) >>= _) = _
  rw [hwritten]
  rfl

theorem execute_bind {α : Type} {statement : Outcome Statement}
    (hwritten : (statement >>= Statement.render) = .ok f) (k : Remote.QueryResult → Task α) :
    execute statement >>= k = .send ⟨f.text, f.params⟩ k := by
  rw [execute_eq_request hwritten]
  rfl

/-- The outcome of a statement is determined by its answer, independently of the log. -/
theorem outcome_execute (statement : Outcome Statement) (dbg : Bool) (report : String)
    (reported : Remote.QueryResult → Fields Value) (reply : Remote.QueryResult → Reply)
    (w : World σ) :
    ((execute statement >>= fun r => debug dbg report (reported r) >>= fun _ =>
      pure (reply r)).run answer w).1 =
        ((statement >>= fun s => s.render) >>= fun f =>
          (answer ⟨f.text, f.params⟩ w.remote).1.map reply) := by
  cases hwritten : statement >>= fun s => s.render with
  | error f =>
    unfold execute
    change ((Task.ofOutcome (statement >>= fun s => s.render) >>= _ >>= _).run answer w).1 = _
    rw [hwritten]
    rfl
  | ok f =>
    rw [execute_eq_request hwritten, Task.run_bind, Outcome.ok_bind]
    simp only [Task.request, Task.run]
    cases answer ⟨f.text, f.params⟩ w.remote with
    | mk outcome remote =>
      cases outcome with
      | ok r =>
        simp only [Task.run_bind_ok (run_debug _ _ _ _)]
        rfl
      | error g => rfl

/-- The observable part of a run: its outcome and the calls. -/
def showing (run : Outcome Reply × World σ) : Outcome Reply × List Call := (run.1, run.2.calls)

/-- The observable part of an operation that ensures its table and then sends one statement. -/
def ending (answer : Executor σ) (m : Schema.Mapper) (w : World σ)
    (written : Outcome (Fragment Value)) (reply : Remote.QueryResult → Reply) :
    Outcome Reply × List Call :=
  match (Registry.ensureMapper m).run answer w.beginSeed with
  | (.error f, ready) => (.error f, ready.calls)
  | (.ok _, ready) =>
    (written >>= fun f => (answer ⟨f.text, f.params⟩ ready.remote).1.map reply,
      ready.calls ++ sent written)

theorem ending_of_statement {source : MapperSource} {m : Schema.Mapper}
    (hm : source.resolve = .ok m) (dbg : Bool) (message report : String)
    (fields : Schema.Mapper → Fields Value) (statement : Schema.Mapper → Outcome Statement)
    (reported : Schema.Mapper → Remote.QueryResult → Fields Value)
    (reply : Schema.Mapper → Remote.QueryResult → Reply) (w : World σ) :
    showing ((prepare source >>= fun m => debug dbg message (fields m) >>= fun _ =>
      execute (statement m) >>= fun r => debug dbg report (reported m r) >>= fun _ =>
        pure (reply m r)).run answer w) =
      ending answer m w (statement m >>= fun s => s.render) (reply m) := by
  unfold ending
  rw [Task.run_bind, run_prepare hm]
  cases (Registry.ensureMapper m).run answer w.beginSeed with
  | mk outcome ready =>
    cases outcome with
    | error f => rfl
    | ok _ =>
      simp only [Outcome.map_ok]
      rw [Task.run_bind_ok (run_debug _ _ _ _), showing, outcome_execute,
        calls_execute _ fun r => quiet_report dbg report (reported m r) (reply m r)]
      cases dbg <;> rfl

/-- The outcome of an operation that compiles a query, given the answer to its statement. -/
theorem outcome_of_query {source : MapperSource} {m : Schema.Mapper} {w : World σ}
    {statement : Schema.Mapper → Criteria → Outcome Statement} {query : Value}
    {fields : Schema.Mapper → Fields Value} (hm : source.resolve = .ok m)
    (hknown : w.registry.known.contains (.text m.tableName) = true)
    (hwritten : (Criteria.empty.compile query >>= fun c => statement m c >>= fun s => s.render) =
      .ok f)
    (hanswer : (answer ⟨f.text, f.params⟩ w.remote).1 = .ok r) (dbg : Bool)
    (message report : String) (reported : Remote.QueryResult → Fields Value)
    (reply : Remote.QueryResult → Reply) :
    ((prepare source >>= fun m => debug dbg message (fields m) >>= fun _ =>
      compiled query >>= fun c => execute (statement m c) >>= fun r =>
        debug dbg report (reported r) >>= fun _ => pure (reply r)).run answer w).1 =
          .ok (reply r) := by
  obtain ⟨c, hcompile, hrender⟩ := Outcome.bind_eq_ok_iff.mp hwritten
  rw [Task.run_bind_ok (run_prepare_known hm hknown), Task.run_bind_ok (run_debug _ _ _ _),
    compiled, hcompile, Task.run_bind_ok (Task.run_ofOutcome (.ok c) _), outcome_execute, hrender,
    Outcome.ok_bind]
  cases dbg <;> simp [hanswer]

/-- The data of the reply of an operation. -/
def Answers (answer : Executor σ) (w : World σ) (dbg : Bool) (source : MapperSource)
    (o : Operation) (data : Value) : Prop :=
  ∃ reply, ((o.task dbg source).run answer w).1 = .ok reply ∧ reply.data = data

end SqlBridge.Adapter
