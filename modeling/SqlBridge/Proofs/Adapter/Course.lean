import SqlBridge.Proofs.Adapter.Conforms
import SqlBridge.Proofs.Remote.Catalog
import SqlBridge.Proofs.TableSet
import SqlBridge.Proofs.Task.History

/-!
The possible runs of an operation. With a known table only its own statements are sent. With an
unknown one the provisioning statement is sent first, if provisioning is on, and its own statements
only after that has succeeded.
-/

namespace SqlBridge.Adapter

open Sql

/-- The registry with the table of a mapper added. -/
def withTable (registry : Registry) (m : Schema.Mapper) : Registry :=
  { registry with known := registry.known.insert (.text m.tableName) }

/-- Exchanges along a list of statements under a constant registry; all statements have been sent
when the task has finished. -/
structure Follows (statements : List (Outcome Statement)) (registry : Registry) (finished : Prop)
    (es : List Exchange) : Prop where
  registry_eq : ∀ e ∈ es, e.registry = registry
  calls_prefix : es.map Exchange.call <+: writable statements
  calls_eq : finished → es.map Exchange.call = writable statements

namespace Follows

variable {statements : List (Outcome Statement)} {registry : Registry} {finished : Prop}
  {es : List Exchange}

theorem nothing (h : finished → statements = []) : Follows statements registry finished [] := by
  refine ⟨by simp, List.nil_prefix, fun hfinished => ?_⟩
  rw [h hfinished]
  rfl

theorem cons {s : Statement} {f : Fragment Value} (hrender : s.render = .ok f)
    (answer : Outcome Remote.QueryResult) (h : Follows statements registry finished es) :
    Follows (.ok s :: statements) registry finished
      (⟨⟨f.text, f.params⟩, registry, answer⟩ :: es) := by
  have hwritable : writable (.ok s :: statements) = ⟨f.text, f.params⟩ :: writable statements := by
    simp only [writable, Outcome.ok_bind, hrender]
  refine ⟨?_, ?_, fun hfinished => ?_⟩
  · intro e he
    rcases List.mem_cons.mp he with rfl | he
    · rfl
    · exact h.registry_eq e he
  · rw [hwritable, List.map_cons]
    exact List.cons_prefix_cons.mpr ⟨rfl, h.calls_prefix⟩
  · rw [hwritable, List.map_cons, h.calls_eq hfinished]

theorem mem_writable (h : Follows statements registry finished es) {e : Exchange} (he : e ∈ es) :
    e.call ∈ writable statements :=
  h.calls_prefix.mem (List.mem_map_of_mem he)

/-- The statements of an operation are not provisioning statements. -/
theorem not_provisioning (h : Follows statements registry finished es) {e : Exchange}
    (he : e ∈ es) : Remote.isProvisioning e.call.sql = false :=
  isProvisioning_of_mem_writable (h.mem_writable he)

end Follows

/-- The exchanges of an operation and the registry after it, by the registry before it. -/
inductive Course (owner : Outcome Schema.Mapper) (statements : List (Outcome Statement))
    (before : Registry) (finished : Prop) : List Exchange → Registry → Prop
  | idle (h : finished → statements = []) : Course owner statements before finished [] before
  | known {m : Schema.Mapper} (howner : owner = .ok m)
    (hknown : before.known.contains (.text m.tableName) = true) {es : List Exchange}
    (h : Follows statements before finished es) : Course owner statements before finished es before
  | refused {m : Schema.Mapper} {sql : String} (howner : owner = .ok m)
    (hunknown : before.known.contains (.text m.tableName) = false)
    (hauto : before.autocreate = true) (hsql : m.createTable = .ok sql) (f : Failure)
    (h : ¬finished) :
    Course owner statements before finished [⟨⟨sql, []⟩, before, .error f⟩] before
  | provisioned {m : Schema.Mapper} {sql : String} (howner : owner = .ok m)
    (hunknown : before.known.contains (.text m.tableName) = false)
    (hauto : before.autocreate = true) (hsql : m.createTable = .ok sql)
    (r : Remote.QueryResult) {es : List Exchange}
    (h : Follows statements (withTable before m) finished es) :
    Course owner statements before finished (⟨⟨sql, []⟩, before, .ok r⟩ :: es)
      (withTable before m)

variable {σ α : Type} {answer : Executor σ} {owner : Outcome Schema.Mapper} {sure sure' : Bool}
  {statements : List (Outcome Statement)} {t : Task α}

/-- With a known table a task sends statements of its list only. -/
theorem Conforms.run_known (h : Conforms owner sure t statements sure') {m : Schema.Mapper}
    (howner : owner = .ok m) (w : World σ)
    (hknown : w.registry.known.contains (.text m.tableName) = true) :
    (t.run answer w).2.registry = w.registry ∧
      Follows statements w.registry (∃ a, (t.run answer w).1 = .ok a) (t.history answer w) := by
  induction h generalizing w with
  | done sure a => exact ⟨rfl, .nothing fun _ => rfl⟩
  | fail sure sure' f statements =>
    exact ⟨rfl, .nothing fun hfinished => absurd hfinished (Outcome.not_exists_error_eq_ok f)⟩
  | note e _ ih => exact ih (w.note e) hknown
  | beginSeed _ ih =>
    have hrest := ih w.beginSeed (by rwa [World.registry_beginSeed])
    rwa [World.registry_beginSeed] at hrest
  | @ensure m' howner' sure sure' k statements _ ih =>
    cases howner.symm.trans howner'
    obtain ⟨sql, hsql, -⟩ := m.exists_createTable
    rw [Registry.ensureMapper_bind hsql]
    simp only [Task.run, Task.history, hknown, if_true]
    exact ih w hknown
  | @send s f hrender sure' next statements _ ih =>
    simp only [Task.run, Task.history]
    cases answer ⟨f.text, f.params⟩ w.remote with
    | mk o remote =>
      cases o with
      | ok r =>
        obtain ⟨hregistry, hfollows⟩ := ih r { w.record ⟨f.text, f.params⟩ with remote } hknown
        exact ⟨hregistry, hfollows.cons hrender (.ok r)⟩
      | error g =>
        refine ⟨rfl, ?_, ?_, fun hfinished => ?_⟩
        · intro e he
          rw [List.mem_singleton.mp he]
        · simp only [writable, Outcome.ok_bind, hrender]
          exact List.prefix_append [_] _
        · exact absurd hfinished (Outcome.not_exists_error_eq_ok g)

/-- With an unknown table a task sends nothing, or the provisioning statement first. -/
theorem Conforms.course_unknown (h : Conforms owner sure t statements sure')
    (hsure : sure = false) (w : World σ)
    (hunknown : ∀ m, owner = .ok m → w.registry.known.contains (.text m.tableName) = false) :
    Course owner statements w.registry (∃ a, (t.run answer w).1 = .ok a) (t.history answer w)
      (t.run answer w).2.registry := by
  induction h generalizing w with
  | done sure a => exact .idle fun _ => rfl
  | fail sure sure' f statements =>
    exact .idle fun hfinished => absurd hfinished (Outcome.not_exists_error_eq_ok f)
  | note e _ ih => exact ih hsure (w.note e) hunknown
  | beginSeed _ ih =>
    have hrest := ih hsure w.beginSeed (by rwa [World.registry_beginSeed])
    rwa [World.registry_beginSeed] at hrest
  | @ensure m howner sure sure' k statements hk _ =>
    obtain ⟨sql, hsql, -⟩ := m.exists_createTable
    have hmiss := hunknown m howner
    rw [Registry.ensureMapper_bind hsql]
    simp only [Task.run, Task.history, hmiss, Bool.false_eq_true, if_false]
    by_cases hauto : w.registry.autocreate = true
    · simp only [hauto, if_true, Task.run, Task.history, World.remote_note]
      cases answer ⟨sql, []⟩ w.remote with
      | mk o remote =>
        cases o with
        | error f =>
          exact .refused howner hmiss hauto hsql f (Outcome.not_exists_error_eq_ok f)
        | ok r =>
          -- The table is known now, so the rest is a run on a known table.
          let noted := w.note (Registry.tableEntry "Creating table" m.tableName [])
          let answered : World σ := { noted.record ⟨sql, []⟩ with remote }
          let after := (answered.note (Registry.tableEntry "Table created" m.tableName
            [("sql", .text sql)])).learn [.text m.tableName]
          have hafter : after.registry = withTable w.registry m := rfl
          have hlearned : after.registry.known.contains (.text m.tableName) = true :=
            TableSet.contains_text_iff.mpr (TableSet.mem_insert_text_iff.mpr (Or.inr rfl))
          obtain ⟨hregistry, hfollows⟩ := hk.run_known howner after hlearned
          rw [hafter] at hregistry hfollows
          rw [hregistry]
          exact .provisioned howner hmiss hauto hsql r hfollows
    · simp only [if_neg hauto, Task.run, Task.history]
      exact .idle fun hfinished => absurd hfinished (Outcome.not_exists_error_eq_ok _)
  | send hrender _ _ => cases hsure

/-- Every run of an operation is one of the courses. -/
theorem course_task (answer : Executor σ) (dbg : Bool) (source : MapperSource) (o : Operation)
    (w : World σ) :
    Course source.resolve (o.statementsOf source.resolve) w.registry
      (∃ r, ((o.task dbg source).run answer w).1 = .ok r) ((o.task dbg source).history answer w)
      ((o.task dbg source).run answer w).2.registry := by
  obtain ⟨sure, hconforms⟩ := exists_conforms_task dbg source o
  by_cases hknown : ∃ m, source.resolve = .ok m ∧
      w.registry.known.contains (.text m.tableName) = true
  · obtain ⟨m, howner, hm⟩ := hknown
    obtain ⟨hregistry, hfollows⟩ := hconforms.run_known howner w hm
    rw [hregistry]
    exact .known howner hm hfollows
  · refine hconforms.course_unknown rfl w fun m howner => ?_
    rw [← Bool.not_eq_true]
    exact fun hm => hknown ⟨m, howner, hm⟩

/-- An operation does not send the catalog statement. -/
theorem Course.ne_catalog {before after : Registry} {finished : Prop} {es : List Exchange}
    (h : Course owner statements before finished es after) :
    ∀ e ∈ es, e.call.sql ≠ Remote.catalogSql := by
  have hfollows : ∀ {registry : Registry} {es : List Exchange},
      Follows statements registry finished es → ∀ e ∈ es, e.call.sql ≠ Remote.catalogSql := by
    intro registry es h e he
    obtain ⟨s, f, -, hrender, hcall⟩ := Adapter.mem_writable (h.mem_writable he)
    rw [hcall]
    exact Statement.render_ne_catalog hrender
  cases h with
  | idle _ => simp
  | known _ _ h => exact hfollows h
  | refused _ _ _ hsql f _ =>
    intro e he
    rw [List.mem_singleton.mp he]
    exact Remote.Script.ne_catalog_of_isProvisioning (Schema.Mapper.isProvisioning_createTable hsql)
  | provisioned _ _ _ hsql r h =>
    intro e he
    rcases List.mem_cons.mp he with rfl | he
    · exact Remote.Script.ne_catalog_of_isProvisioning
        (Schema.Mapper.isProvisioning_createTable hsql)
    · exact hfollows h e he

end SqlBridge.Adapter
