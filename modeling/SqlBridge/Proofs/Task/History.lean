import SqlBridge.Proofs.Task.Run

/-!
Calls and answers of tasks. The history of a run holds each call with the registry at that moment
and with its answer. It ends with the first failure, because a failed call ends its task.
-/

namespace SqlBridge

/-- A call with the registry at that moment and its answer. -/
structure Exchange where
  call : Call
  registry : Registry
  answer : Outcome Remote.QueryResult

/-- The answers to calls, one after another. -/
def Executor.replay {σ : Type} (answer : Executor σ) :
    List Call → σ → List (Outcome Remote.QueryResult)
  | [], _ => []
  | call :: rest, remote =>
    (answer call remote).1 :: Executor.replay answer rest (answer call remote).2

namespace Task

variable {σ α β : Type} {answer : Executor σ}

/-- The exchanges of a run, in order. -/
def history (answer : Executor σ) (t : Task α) (w : World σ) : List Exchange :=
  match t with
  | done _ => []
  | fail _ => []
  | send call next =>
    match answer call w.remote with
    | (.ok r, remote) =>
      ⟨call, w.registry, .ok r⟩ :: (next r).history answer { w.record call with remote }
    | (.error f, _) => [⟨call, w.registry, .error f⟩]
  | look next => (next w.registry).history answer w
  | learn names next => next.history answer (w.learn names)
  | beginSeed next => next.history answer w.beginSeed
  | note e next => next.history answer (w.note e)

/-- The calls recorded by a run are those of its history. -/
theorem calls_run (t : Task α) (w : World σ) :
    (t.run answer w).2.calls = w.calls ++ (t.history answer w).map Exchange.call := by
  induction t generalizing w with
  | done a => exact (List.append_nil w.calls).symm
  | fail f => exact (List.append_nil w.calls).symm
  | send call next ih =>
    simp only [run, history]
    cases answer call w.remote with
    | mk o remote =>
      cases o with
      | ok r =>
        rw [List.map_cons, List.append_cons]
        exact ih r { w.record call with remote }
      | error f => rfl
  | look next ih => exact ih w.registry w
  | learn names next ih => exact ih (w.learn names)
  | beginSeed next ih =>
    have hrest := ih w.beginSeed
    rwa [World.calls_beginSeed] at hrest
  | note e next ih => exact ih (w.note e)

/-- The answers in a history are those of the executor, from its initial state. -/
theorem answers_history (t : Task α) (w : World σ) :
    (t.history answer w).map Exchange.answer =
      answer.replay ((t.history answer w).map Exchange.call) w.remote := by
  induction t generalizing w with
  | done a => rfl
  | fail f => rfl
  | send call next ih =>
    simp only [history]
    cases hanswer : answer call w.remote with
    | mk o remote =>
      cases o with
      | ok r =>
        have hrest := ih r { w.record call with remote }
        simp only [List.map_cons, Executor.replay, hanswer, hrest]
      | error f => simp only [List.map_cons, List.map_nil, Executor.replay, hanswer]
  | look next ih => exact ih w.registry w
  | learn names next ih => exact ih (w.learn names)
  | beginSeed next ih =>
    have hrest := ih w.beginSeed
    rwa [World.remote_beginSeed] at hrest
  | note e next ih => exact ih (w.note e)

/-- A failed call is the last one, and its failure is that of the task. -/
theorem run_of_failed_call {t : Task α} {w : World σ} {past future : List Exchange}
    {e : Exchange} {f : Failure} (h : t.history answer w = past ++ e :: future)
    (hfailed : e.answer = .error f) : future = [] ∧ (t.run answer w).1 = .error f := by
  induction t generalizing w past with
  | done a => simp [history] at h
  | fail g => simp [history] at h
  | send call next ih =>
    simp only [history] at h
    simp only [run]
    cases hanswer : answer call w.remote with
    | mk o remote =>
      simp only [hanswer] at h
      cases o with
      | ok r =>
        cases past with
        | nil =>
          obtain ⟨rfl, -⟩ := List.cons_eq_cons.mp h
          cases hfailed
        | cons first past => exact ih r (List.cons_eq_cons.mp h).2
      | error g =>
        cases past with
        | nil =>
          obtain ⟨rfl, rfl⟩ := List.cons_eq_cons.mp h
          cases hfailed
          exact ⟨rfl, rfl⟩
        | cons first past => simp at h
  | look next ih => exact ih w.registry h
  | learn names next ih => exact ih h
  | beginSeed next ih => exact ih h
  | note e next ih => exact ih h

end Task

end SqlBridge
