import SqlBridge.Proofs.Adapter.Event
import SqlBridge.Proofs.Query.Blame
import SqlBridge.Proofs.Registry.Calls

/-!
The refusal of operations on unknown tables. With provisioning off, an operation that ensures its
table is refused without a call exactly when the table is unknown. With a known table it may still
fail before its first call, but only by a fault in its arguments.
-/

namespace SqlBridge

/-- A task that can fail before its first call only by a fault in its arguments. -/
inductive Task.BlamesArguments {α : Type} : Task α → Prop
  | done (a : α) : BlamesArguments (.done a)
  | fail {f : Failure} (h : f.blamesArguments = true) : BlamesArguments (.fail f)
  | send (call : Call) (next : Remote.QueryResult → Task α) : BlamesArguments (.send call next)
  | look {next : Registry → Task α} (h : ∀ registry, BlamesArguments (next registry)) :
    BlamesArguments (.look next)
  | learn (names : List Value) {next : Task α} (h : BlamesArguments next) :
    BlamesArguments (.learn names next)
  | beginSeed {next : Task α} (h : BlamesArguments next) : BlamesArguments (.beginSeed next)
  | note (e : Log.Entry) {next : Task α} (h : BlamesArguments next) :
    BlamesArguments (.note e next)

namespace Task.BlamesArguments

variable {σ α β : Type} {answer : Executor σ}

theorem ofOutcome {o : Outcome α} {k : α → Task β} (h : o.BlamesArguments)
    (hk : ∀ a, (k a).BlamesArguments) : (Task.ofOutcome o >>= k).BlamesArguments := by
  cases o with
  | ok a => exact hk a
  | error f => exact .fail (h f rfl)

/-- A run that has sent nothing fails by a fault in the arguments. -/
theorem of_run {t : Task α} (h : t.BlamesArguments) {w : World σ} {f : Failure}
    (hfailed : (t.run answer w).1 = .error f) (hsilent : (t.run answer w).2.calls = w.calls) :
    f.blamesArguments = true := by
  induction h generalizing w with
  | done a => cases hfailed
  | fail hf =>
    cases hfailed
    exact hf
  | send call next =>
    -- The call is recorded, so the run has sent something.
    simp only [run] at hsilent
    cases hanswer : answer call w.remote with
    | mk o remote =>
      cases o with
      | ok r =>
        simp only [hanswer] at hsilent
        have hprefix : w.calls ++ [call] <+:
            ((next r).run answer { w.record call with remote }).2.calls :=
          calls_prefix (next r) { w.record call with remote }
        rw [hsilent] at hprefix
        exact absurd hprefix.length_le (by simp)
      | error g => simp [hanswer] at hsilent
  | look _ ih => exact ih _ hfailed hsilent
  | learn names _ ih => exact ih hfailed hsilent
  | beginSeed _ ih =>
    refine ih hfailed ?_
    rw [World.calls_beginSeed]
    exact hsilent
  | note e _ ih => exact ih hfailed hsilent

end Task.BlamesArguments

namespace Adapter

open Sql

variable {σ α : Type} {answer : Executor σ}

theorem blames_debug {enabled : Bool} {message : String} {fields : Fields Value}
    {k : Unit → Task α} (hk : (k ()).BlamesArguments) :
    (debug enabled message fields >>= k).BlamesArguments := by
  cases enabled with
  | true => exact .note _ hk
  | false => exact hk

/-- The continuation of a statement follows its call. -/
theorem blames_execute {statement : Outcome Statement} (h : statement.BlamesArguments)
    (k : Remote.QueryResult → Task α) : (execute statement >>= k).BlamesArguments := by
  unfold execute
  rw [Task.bind_assoc]
  refine .ofOutcome (h.bind fun s => s.blames_render) fun f => .send _ _

theorem blames_queried (query : Value) {statement : Criteria → Outcome Statement}
    (h : ∀ c, (statement c).BlamesArguments) (k : Remote.QueryResult → Task α) :
    (compiled query >>= fun c => execute (statement c) >>= k).BlamesArguments :=
  .ofOutcome (Criteria.blames_compile _ query) fun c => blames_execute (h c) k

theorem blames_identified (m : Schema.Mapper) (id : Value) : (identified m id).BlamesArguments :=
  Criteria.blames_comparison _ _ id

theorem blames_updateStatement (m : Schema.Mapper) (id props : Value) :
    (updateStatement m id props).BlamesArguments :=
  (blames_changeColumns props).bind fun _ => (blames_identified m id).bind fun _ =>
    (blames_changes props).bind fun _ => .ok _

theorem blames_updateAllStatement (m : Schema.Mapper) (props query : Value) :
    (updateAllStatement m props query).BlamesArguments :=
  (blames_changeColumns props).bind fun _ => (Criteria.blames_compile _ query).bind fun c =>
    (blames_changes props).bind fun _ => (c.blames_scope m.tableName).bind fun _ => .ok _

/-- The operations that ensure their table before their arguments are checked. An empty change is
refused before that, and a list of changes ensures the table once for each of them. -/
def Operation.looksUp : Operation → Bool
  | .update _ props => props.truthy
  | .updateAll props _ => props.truthy
  | .updateMany _ => false
  | _ => true

/-- Such an operation ensures its table, and continues with a task that can fail before its first
call only by its arguments. -/
theorem exists_blames_rest {o : Operation} (h : o.looksUp = true) (dbg : Bool)
    (source : MapperSource) :
    ∃ k : Schema.Mapper → Task Reply, o.task dbg source = prepare source >>= k ∧
      ∀ m, (k m).BlamesArguments := by
  cases o with
  | count query =>
    exact ⟨_, rfl, fun m => blames_debug (blames_queried query
      (fun c => (c.blames_select _ _).map _) _)⟩
  | create props =>
    exact ⟨_, rfl, fun m => blames_debug (.ofOutcome (blames_newRecord props) fun record =>
      blames_execute (.ok _) _)⟩
  | createMany rows =>
    refine ⟨_, rfl, fun m => .ofOutcome (blames_size rows) fun n => blames_debug ?_⟩
    split
    · exact .ofOutcome (blames_newRows _) fun x => blames_execute (.ok _) _
    · exact .done _
  | find id =>
    exact ⟨_, rfl, fun m => blames_debug (blames_execute
      ((blames_identified m id).bind fun _ => .ok _) _)⟩
  | findAll query =>
    exact ⟨_, rfl, fun m => blames_debug (blames_queried query
      (fun c => (c.blames_select _ _).map _) _)⟩
  | update id props =>
    have hrequire : requireChanges source props = pure () := if_pos h
    simp only [Operation.task, update, hrequire]
    exact ⟨_, rfl, fun m => blames_debug (blames_execute (blames_updateStatement m id props) _)⟩
  | updateAll props query =>
    have hrequire : requireChanges source props = pure () := if_pos h
    simp only [Operation.task, updateAll, hrequire]
    exact ⟨_, rfl, fun m => blames_debug
      (blames_execute (blames_updateAllStatement m props query) _)⟩
  | updateMany records => cases h
  | destroy id =>
    exact ⟨_, rfl, fun m => blames_debug (blames_execute
      ((blames_identified m id).bind fun _ => .ok _) _)⟩
  | destroyAll query =>
    exact ⟨_, rfl, fun m => blames_debug (blames_queried query
      (fun c => (c.blames_scope _).map _) _)⟩
  | sum field query =>
    exact ⟨_, rfl, fun m => blames_debug (blames_queried query
      (fun c => (c.blames_select _ _).map _) _)⟩

/-- With provisioning off, ensuring a table succeeds when it is known and is refused when it is
unknown. -/
theorem run_prepare_off {source : MapperSource} {m : Schema.Mapper}
    (hsource : source.resolve = .ok m) (k : Schema.Mapper → Task α) {w : World σ}
    (hauto : w.registry.autocreate = false) :
    (prepare source >>= k).run answer w =
      if knows w.registry m.tableName then (k m).run answer w.beginSeed
      else (.error (.tableNotFound m.tableName),
        w.beginSeed.note (Registry.tableEntry "Table does not exist" m.tableName [])) := by
  obtain ⟨sql, hsql, -⟩ := m.exists_createTable
  change Task.run answer (.beginSeed ((Task.ofOutcome source.resolve >>= fun m =>
    Registry.ensureMapper m >>= fun _ => pure m) >>= k)) w = _
  rw [hsource, Task.bind_assoc]
  change Task.run answer ((Registry.ensureMapper m >>= fun _ => pure m) >>= k) w.beginSeed = _
  rw [Task.bind_assoc, Registry.ensureMapper_bind hsql]
  simp only [Task.run, World.registry_beginSeed]
  by_cases hknown : knows w.registry m.tableName = true
  · have hcontains : w.registry.known.contains (.text m.tableName) = true := hknown
    rw [if_pos hknown, if_pos hcontains]
    rfl
  · have hcontains : ¬w.registry.known.contains (.text m.tableName) = true := hknown
    rw [if_neg hknown, if_neg hcontains, hauto]
    rfl

/-- With provisioning off, an operation is refused without a call for its missing table if and only
if the table is unknown. -/
theorem refused_iff (answer : Executor σ) {o : Operation} (h : o.looksUp = true) (dbg : Bool)
    {source : MapperSource} {m : Schema.Mapper} (hsource : source.resolve = .ok m) {w : World σ}
    (hauto : w.registry.autocreate = false) :
    (((o.task dbg source).run answer w).1 = .error (.tableNotFound m.tableName) ∧
      ((o.task dbg source).run answer w).2.calls = w.calls) ↔
        knows w.registry m.tableName = false := by
  obtain ⟨k, htask, hk⟩ := exists_blames_rest h dbg source
  rw [htask, run_prepare_off hsource k hauto]
  cases hknown : knows w.registry m.tableName with
  | false => simp
  | true =>
    simp only [if_true, Bool.true_eq_false, iff_false]
    rintro ⟨hfailed, hsilent⟩
    rw [← World.calls_beginSeed w] at hsilent
    have hblame := (hk m).of_run hfailed hsilent
    simp [Failure.blamesArguments] at hblame

end Adapter

end SqlBridge
