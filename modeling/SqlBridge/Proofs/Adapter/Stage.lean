import SqlBridge.Proofs.Adapter.Provisioning
import SqlBridge.Proofs.Registry.Reading

/-!
Stages of a run. A stage is a step with the session before it; the observable parts of a run are
functions of its stages. Few stages read the catalog: operations do not send the catalog statement,
and a turn sends it only while the reading is pending.
-/

namespace SqlBridge.Adapter

open Sql Remote

/-- A step with the session before it. -/
structure Stage where
  step : Step
  before : ScriptedSession

namespace Stage

def answer (x : Stage) : Outcome Answer := (x.step.run scripted x.before).1

def after (x : Stage) : ScriptedSession := (x.step.run scripted x.before).2

/-- The calls of a stage of a run, which starts without recorded calls. -/
def calls (x : Stage) : List Call := x.after.world.calls

end Stage

/-- The stages of a run, in order. -/
def stages : List (Step × List Remote.Reply) → ScriptedSession → List Stage
  | [], _ => []
  | (step, replies) :: rest, s =>
    let x : Stage := ⟨step, { s with world := s.world.prepare replies }⟩
    x :: stages rest x.after

theorem runAll_eq_stages (steps : List (Step × List Remote.Reply)) (s : ScriptedSession) :
    runAll scripted steps s = (stages steps s).map fun x => (x.answer, x.after) := by
  induction steps generalizing s with
  | nil => rfl
  | cons first rest ih => exact congrArg (_ :: ·) (ih _)

/-- The stages from some stage on are those of the run that starts there. -/
theorem exists_stages_of_split {steps : List (Step × List Remote.Reply)} {s : ScriptedSession}
    {past future : List Stage} {x : Stage} (h : stages steps s = past ++ x :: future) :
    ∃ rest, future = stages rest x.after := by
  induction steps generalizing s past with
  | nil => simp [stages] at h
  | cons first rest ih =>
    simp only [stages] at h
    cases past with
    | nil =>
      obtain ⟨rfl, hfuture⟩ := List.cons_eq_cons.mp h
      exact ⟨rest, hfuture.symm⟩
    | cons y past => exact ih (List.cons_eq_cons.mp h).2

/-- A stage of a run starts without recorded calls. -/
theorem calls_before {steps : List (Step × List Remote.Reply)} {s : ScriptedSession} {x : Stage}
    (hx : x ∈ stages steps s) : x.before.world.calls = [] := by
  induction steps generalizing s with
  | nil => cases hx
  | cons first rest ih =>
    rcases List.mem_cons.mp hx with rfl | hx
    · rfl
    · exact ih hx

/-- The number of readings of the catalog among calls. -/
def readings (calls : List Call) : Nat := calls.countP fun call => call.sql = catalogSql

theorem readings_append (calls more : List Call) :
    readings (calls ++ more) = readings calls + readings more := List.countP_append ..

theorem readings_of_mem {xs : List Stage} (h : readings (xs.flatMap Stage.calls) = 0) {x : Stage}
    (hx : x ∈ xs) : readings x.calls = 0 := by
  refine List.countP_eq_zero.mpr fun call hcall => ?_
  exact List.countP_eq_zero.mp h call (List.mem_flatMap.mpr ⟨x, hx, hcall⟩)

theorem readings_catalog : readings [⟨catalogSql, []⟩] = 1 := by decide

/-- The calls of an operation are not readings. -/
theorem readings_run (dbg : Bool) (source : MapperSource) (o : Operation) (w : ScriptedWorld) :
    readings ((o.task dbg source).run Script.answer w).2.calls = readings w.calls := by
  have hcourse := course_task Script.answer dbg source o w
  rw [Task.calls_run, readings_append, Nat.add_eq_left]
  refine List.countP_eq_zero.mpr fun call hcall => ?_
  obtain ⟨e, he, rfl⟩ := List.mem_map.mp hcall
  exact fun hsql => hcourse.ne_catalog e he (of_decide_eq_true hsql)

/-- A turn reads the catalog once if the reading is pending. -/
theorem calls_turn (w : ScriptedWorld) :
    (turn Script.answer w).calls = w.calls ++
      match w.seed with
      | .pending => [⟨catalogSql, []⟩]
      | _ => [] := by
  rw [(accounts_turn w).calls_eq]
  unfold turnEvents
  cases w.seed with
  | pending =>
    rw [Registry.history_seed]
    rfl
  | _ => rfl

/-- A turn adds the names of the catalog to the registry if the reading is pending. -/
theorem registry_turn (w : ScriptedWorld) :
    (turn Script.answer w).registry =
      match w.seed with
      | .pending => { w.registry with known := w.registry.known.insertAll w.remote.learned }
      | _ => w.registry := by
  obtain ⟨log, hrun⟩ := exists_runSeed_eq Script.answer w
  unfold turn
  cases w.seed with
  | pending =>
    simp only [hrun]
    exact Registry.registry_seed w
  | _ => rfl

theorem remote_turn (w : ScriptedWorld) : (turn Script.answer w).remote = w.remote := by
  obtain ⟨log, hrun⟩ := exists_runSeed_eq Script.answer w
  unfold turn
  cases w.seed with
  | pending =>
    simp only [hrun]
    exact Registry.remote_seed w
  | _ => rfl

end SqlBridge.Adapter
