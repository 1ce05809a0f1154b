import SqlBridge.Adapter.Operation
import SqlBridge.Proofs.Task.Run

/-!
Calls of the common parts of the operations. Ensuring a known table sends nothing, log records send
nothing, and a statement that can be rendered is sent once.
-/

namespace SqlBridge.Adapter

open Sql

variable {σ α : Type} {answer : Executor σ}

theorem keys_boundFields (fields : Fields Value) : (boundFields fields).keys = fields.keys := by
  simp [boundFields, Fields.keys, Function.comp_def]

theorem members?_object (fields : Fields Value) :
    (Value.object fields).members? = some (fields.keys.map Value.text) := by
  simp [Value.members?, Fields.keys, Function.comp_def]

theorem quiet_debug (enabled : Bool) (message : String) (fields : Fields Value) :
    Task.Quiet answer (debug enabled message fields) := by
  intro w
  cases enabled <;> rfl

/-- After its statement an operation only logs its result and sends nothing. -/
theorem quiet_report (enabled : Bool) (message : String) (fields : Fields Value) (a : α) :
    Task.Quiet answer (debug enabled message fields >>= fun _ => pure a) :=
  (quiet_debug enabled message fields).bind fun _ => Task.Quiet.pure a

theorem run_debug (enabled : Bool) (message : String) (fields : Fields Value) (w : World σ) :
    (debug enabled message fields).run answer w =
      (.ok (), if enabled then w.note (Log.Entry.debug logger message fields) else w) := by
  cases enabled <;> rfl

/-- After the mapper is resolved, preparing an operation ensures its table. -/
theorem run_prepare {source : MapperSource} {m : Schema.Mapper} (hm : source.resolve = .ok m)
    (w : World σ) :
    (prepare source).run answer w =
      ((((Registry.ensureMapper m).run answer w.beginSeed).1.map fun _ => m),
        ((Registry.ensureMapper m).run answer w.beginSeed).2) := by
  unfold prepare
  rw [Task.run_bind]
  simp only [Task.startSeed, Task.run]
  rw [hm, Task.run_bind_ok (Task.run_ofOutcome (.ok m) _), Task.run_bind]
  cases (Registry.ensureMapper m).run answer w.beginSeed with
  | mk outcome ready =>
    cases outcome with
    | ok _ => rfl
    | error f => rfl

/-- Preparing an operation on a known table sends nothing. -/
theorem run_prepare_known {source : MapperSource} {m : Schema.Mapper} {w : World σ}
    (hm : source.resolve = .ok m)
    (hknown : w.registry.known.contains (.text m.tableName) = true) :
    (prepare source).run answer w = (.ok m, w.beginSeed) := by
  have hensure : (Registry.ensureMapper m).run answer w.beginSeed = (.ok (), w.beginSeed) := by
    unfold Registry.ensureMapper Registry.ensure
    rw [Task.run_bind]
    simp only [Task.registry, Task.run, World.registry_beginSeed, hknown, if_true]
    rfl
  rw [run_prepare hm, hensure]
  rfl

/-- The calls of a statement: one when it can be rendered, none otherwise. -/
def sent : Outcome (Fragment Value) → List Call
  | .ok f => [⟨f.text, f.params⟩]
  | .error _ => []

/-- A statement with a quiet continuation is the only call. -/
theorem calls_execute (statement : Outcome Statement) {k : Remote.QueryResult → Task α}
    (hk : ∀ r, Task.Quiet answer (k r)) (w : World σ) :
    ((execute statement >>= k).run answer w).2.calls =
      w.calls ++ sent (statement >>= fun s => s.render) := by
  unfold execute
  cases statement >>= fun s => s.render with
  | error f => exact (List.append_nil w.calls).symm
  | ok f =>
    change ((Task.request ⟨f.text, f.params⟩ >>= k).run answer w).2.calls = _
    rw [Task.run_bind]
    simp only [Task.request, Task.run]
    cases answer ⟨f.text, f.params⟩ w.remote with
    | mk o remote =>
      cases o with
      | ok r => exact hk r _
      | error g => rfl

/-- With any continuation the call of a statement is the first one. -/
theorem sent_prefix_execute (statement : Outcome Statement) (k : Remote.QueryResult → Task α)
    (w : World σ) :
    w.calls ++ sent (statement >>= fun s => s.render) <+:
      ((execute statement >>= k).run answer w).2.calls := by
  unfold execute
  cases statement >>= fun s => s.render with
  | error f =>
    rw [sent, List.append_nil]
    exact Task.calls_prefix _ w
  | ok f =>
    change _ <+: ((Task.request ⟨f.text, f.params⟩ >>= k).run answer w).2.calls
    rw [Task.run_bind]
    simp only [Task.request, Task.run]
    cases answer ⟨f.text, f.params⟩ w.remote with
    | mk o remote =>
      cases o with
      | ok r => exact Task.calls_prefix (k r) { w.record ⟨f.text, f.params⟩ with remote }
      | error g => exact List.prefix_rfl

/-- An operation on a known table sends nothing before its own statement. -/
theorem exists_run_opening (answer : Executor σ) {source : MapperSource} {m : Schema.Mapper}
    {w : World σ} (hm : source.resolve = .ok m)
    (hknown : w.registry.known.contains (.text m.tableName) = true) (dbg : Bool)
    (message : String) (fields : Schema.Mapper → Fields Value) (k : Schema.Mapper → Task α) :
    ∃ opened : World σ, opened.calls = w.calls ∧
      (prepare source >>= fun m => debug dbg message (fields m) >>= fun _ => k m).run answer w =
        (k m).run answer opened := by
  refine ⟨if dbg then w.beginSeed.note (Log.Entry.debug logger message (fields m))
    else w.beginSeed, ?_, ?_⟩
  · cases dbg <;> simp
  · rw [Task.run_bind_ok (run_prepare_known hm hknown), Task.run_bind_ok (run_debug _ _ _ _)]

/-- The calls of an operation that compiles a query, on a known table. -/
theorem calls_of_query {source : MapperSource} {m : Schema.Mapper} {w : World σ}
    {statement : Schema.Mapper → Criteria → Outcome Statement}
    {fields : Schema.Mapper → Fields Value} {k : Schema.Mapper → Remote.QueryResult → Task α}
    (hm : source.resolve = .ok m)
    (hknown : w.registry.known.contains (.text m.tableName) = true)
    (hk : ∀ r, Task.Quiet answer (k m r)) (dbg : Bool) (message : String) (query : Value) :
    ((prepare source >>= fun m => debug dbg message (fields m) >>= fun _ =>
      compiled query >>= fun c => execute (statement m c) >>= k m).run answer w).2.calls =
        w.calls ++ sent (Criteria.empty.compile query >>= fun c =>
          statement m c >>= fun s => s.render) := by
  obtain ⟨opened, hcalls, hrun⟩ := exists_run_opening answer hm hknown dbg message fields
    fun m => compiled query >>= fun c => execute (statement m c) >>= k m
  rw [hrun, ← hcalls]
  unfold compiled
  cases Criteria.empty.compile query with
  | error f =>
    rw [Task.run_bind, Task.run_ofOutcome]
    exact (List.append_nil opened.calls).symm
  | ok c =>
    rw [Task.run_bind_ok (Task.run_ofOutcome (.ok c) _), calls_execute _ hk, Outcome.ok_bind]

end SqlBridge.Adapter
