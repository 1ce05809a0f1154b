import SqlBridge.Proofs.Task.History

/-!
Reduction of tasks. A task reaches another one when, after some exchanges, its outcome and world are
those of the other task in the world after the exchanges. A long task is analysed part by part in
this way.
-/

namespace SqlBridge.Task

variable {σ α β : Type} {answer : Executor σ}

/-- A sequence has the exchanges of its parts, or those of the first part if that fails. -/
theorem history_bind (t : Task α) (k : α → Task β) (w : World σ) :
    (t >>= k).history answer w = t.history answer w ++
      match t.run answer w with
      | (.ok a, after) => (k a).history answer after
      | (.error _, _) => [] := by
  change (t.bind k).history answer w = _
  induction t generalizing w with
  | done a => rfl
  | fail f => rfl
  | send call next ih =>
    simp only [bind, history, run]
    cases answer call w.remote with
    | mk o remote =>
      cases o with
      | ok r => exact congrArg (List.cons _) (ih r _)
      | error f => rfl
  | look next ih => exact ih w.registry w
  | learn names next ih => exact ih _
  | beginSeed next ih => exact ih _
  | note e next ih => exact ih _

/-- All calls of a task are answered. -/
def Answered (answer : Executor σ) (t : Task α) (w : World σ) : Prop :=
  ∀ e ∈ t.history answer w, ∃ r, e.answer = .ok r

/-- The first part of an answered sequence is answered. -/
theorem Answered.first {t : Task α} {k : α → Task β} {w : World σ}
    (h : Answered answer (t >>= k) w) : Answered answer t w := by
  intro e he
  refine h e ?_
  rw [history_bind]
  exact List.mem_append_left _ he

/-- A property of all answers of the executor holds of the answers in a history. -/
theorem forall_answer_history {p : Outcome Remote.QueryResult → Prop}
    (h : ∀ call s, p (answer call s).1) (t : Task α) (w : World σ) :
    ∀ e ∈ t.history answer w, p e.answer := by
  induction t generalizing w with
  | done a => exact fun e he => absurd he List.not_mem_nil
  | fail f => exact fun e he => absurd he List.not_mem_nil
  | send call next ih =>
    have hcall := h call w.remote
    intro e he
    unfold history at he
    cases hanswer : answer call w.remote with
    | mk o remote =>
      rw [hanswer] at he hcall
      cases o with
      | ok r =>
        rcases List.mem_cons.mp he with rfl | he
        · exact hcall
        · exact ih r _ e he
      | error f =>
        rw [List.mem_singleton.mp he]
        exact hcall
  | look next ih => exact ih w.registry w
  | learn names next ih => exact ih _
  | beginSeed next ih => exact ih _
  | note e next ih => exact ih _

/-- After the exchanges `es` a task continues as the task `rest`. -/
structure Reaches (answer : Executor σ) (t : Task α) (w : World σ) (es : List Exchange)
    (rest : Task α) (after : World σ) : Prop where
  run_eq : t.run answer w = rest.run answer after
  history_eq : t.history answer w = es ++ rest.history answer after

namespace Reaches

variable {t rest last : Task α} {w after final : World σ} {es more : List Exchange}

theorem trans (h : Reaches answer t w es rest after)
    (hrest : Reaches answer rest after more last final) :
    Reaches answer t w (es ++ more) last final where
  run_eq := h.run_eq.trans hrest.run_eq
  history_eq := by rw [h.history_eq, hrest.history_eq, List.append_assoc]

/-- A reduction without further exchanges. -/
theorem silently (h : Reaches answer t w es rest after)
    (hrest : Reaches answer rest after [] last final) : Reaches answer t w es last final := by
  simpa using h.trans hrest

theorem beginSeed (t : Task α) (w : World σ) :
    Reaches answer (.beginSeed t) w [] t w.beginSeed := ⟨rfl, rfl⟩

theorem look (next : Registry → Task α) (w : World σ) :
    Reaches answer (.look next) w [] (next w.registry) w := ⟨rfl, rfl⟩

theorem note (e : Log.Entry) (t : Task α) (w : World σ) :
    Reaches answer (.note e t) w [] t (w.note e) := ⟨rfl, rfl⟩

theorem learn (names : List Value) (t : Task α) (w : World σ) :
    Reaches answer (.learn names t) w [] t (w.learn names) := ⟨rfl, rfl⟩

/-- An answered task continues after its call with the answer. -/
theorem send {call : Call} {next : Remote.QueryResult → Task α} {w : World σ}
    (h : Answered answer (.send call next) w) :
    ∃ r remote, Reaches answer (.send call next) w [⟨call, w.registry, .ok r⟩] (next r)
      { w.record call with remote } := by
  simp only [Answered, history] at h
  cases hcall : answer call w.remote with
  | mk o remote =>
    cases o with
    | ok r => exact ⟨r, remote, by simp only [run, hcall], by simp only [history, hcall]; rfl⟩
    | error f =>
      rw [hcall] at h
      obtain ⟨r, hr⟩ := h _ List.mem_cons_self
      cases hr

/-- A sequence whose first part has succeeded continues with its second part. -/
theorem of_run {t : Task α} {k : α → Task β} {a : α} (h : t.run answer w = (.ok a, after)) :
    Reaches answer (t >>= k) w (t.history answer w) (k a) after where
  run_eq := run_bind_ok h
  history_eq := by rw [history_bind, h]

/-- A datum that is present needs no exchange. -/
theorem ofOutcome {o : Outcome α} {k : α → Task β} {a : α} (h : o = .ok a) :
    Reaches answer (Task.ofOutcome o >>= k) w [] (k a) w := by
  subst h
  exact ⟨rfl, rfl⟩

/-- The task reached by an answered task is answered. -/
theorem answered (h : Reaches answer t w es rest after) (ht : Answered answer t w) :
    Answered answer rest after := by
  intro e he
  refine ht e ?_
  rw [h.history_eq]
  exact List.mem_append_right es he

end Reaches

end SqlBridge.Task
