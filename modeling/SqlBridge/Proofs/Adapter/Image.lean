import SqlBridge.Proofs.Adapter.SeedFailure

/-!
Images of remote sides. An adapter depends on the answers of its remote side only. If a function
maps the states of one remote side to states of another that answers alike, then a run over the
second from the image is the image of the run over the first: the outcomes, calls, tables and
records are the same.
-/

namespace SqlBridge

variable {σ τ α : Type} {f : σ → τ} {answer : Executor σ} {answer' : Executor τ}

/-- In the image of a state the second executor gives the answer of the first, and its next state is
the image of the next state. -/
def Executor.Mirrors (answer' : Executor τ) (f : σ → τ) (answer : Executor σ) : Prop :=
  ∀ call s, answer' call (f s) = ((answer call s).1, f (answer call s).2)

def World.image (f : σ → τ) (w : World σ) : World τ :=
  ⟨f w.remote, w.registry, w.seed, w.calls, w.log⟩

theorem World.image_beginSeed (w : World σ) : w.beginSeed.image f = (w.image f).beginSeed := by
  cases w with
  | mk remote registry seed calls log => cases seed <;> rfl

theorem Task.run_image (h : answer'.Mirrors f answer) (t : Task α) (w : World σ) :
    t.run answer' (w.image f) = ((t.run answer w).1, (t.run answer w).2.image f) := by
  induction t generalizing w with
  | done a => rfl
  | fail failure => rfl
  | send call next ih =>
    have hcall : answer' call (w.image f).remote = _ := h call w.remote
    simp only [run, hcall]
    rcases answer call w.remote with ⟨failure | r, remote⟩
    · rfl
    · exact ih r { w.record call with remote }
  | look next ih => exact ih w.registry w
  | learn names next ih => exact ih (w.learn names)
  | beginSeed next ih =>
    simp only [run, ← World.image_beginSeed]
    exact ih w.beginSeed
  | note e next ih => exact ih (w.note e)

namespace Adapter

theorem runSeed_image (h : answer'.Mirrors f answer) (w : World σ) :
    runSeed answer' (w.image f) = (runSeed answer w).image f := by
  unfold runSeed
  rw [Task.run_image h]
  rcases Registry.seed.run answer w with ⟨failure | n, after⟩
  · cases failure <;> rfl
  · rfl

theorem turn_image (h : answer'.Mirrors f answer) (w : World σ) :
    turn answer' (w.image f) = (turn answer w).image f := by
  have hseed : (w.image f).seed = w.seed := rfl
  unfold turn
  rw [hseed, runSeed_image h]
  cases w.seed <;> rfl

theorem waitSeeded_image (h : answer'.Mirrors f answer) (w : World σ) :
    waitSeeded answer' (w.image f) =
      ((waitSeeded answer w).1, (waitSeeded answer w).2.image f) := by
  simp only [waitSeeded]
  rw [← World.image_beginSeed, turn_image h]
  generalize turn answer w.beginSeed = after
  have hseed : (after.image f).seed = after.seed := rfl
  rw [hseed]
  cases after.seed <;> rfl

theorem requestClose_image (w : World σ) : requestClose (w.image f) = (requestClose w).image f := by
  have hseed : (w.image f).seed = w.seed := rfl
  unfold requestClose
  rw [hseed]
  cases w.seed <;> rfl

def Session.image (f : σ → τ) (s : Session σ) : Session τ := ⟨s.options, s.world.image f⟩

variable {ι : Type} {side : Side σ ι} {side' : Side τ ι}

/-- A function on the states of one remote side whose images have the same answers, catalogs and
supplies. -/
structure Side.Mirrors (side' : Side τ ι) (f : σ → τ) (side : Side σ ι) : Prop where
  answer : side'.answer.Mirrors f side.answer
  relist : ∀ rows s, side'.relist rows (f s) = f (side.relist rows s)
  supply : ∀ given s, side'.supply given (f s) = f (side.supply given s)

theorem mirrors_served (h : answer'.Mirrors f answer) :
    (served answer').Mirrors f (served answer) :=
  ⟨h, fun _ _ => rfl, fun _ _ => rfl⟩

theorem step_image (h : side'.Mirrors f side) (step : Step) (s : Session σ) :
    step.run side' (s.image f) = ((step.run side s).1, (step.run side s).2.image f) := by
  cases step with
  | operate mapper readFirst operation view =>
    simp only [Step.run]
    cases mapperSource mapper readFirst with
    | error failure => rfl
    | ok source =>
      have hrun := Task.run_image h.answer (operation.task s.options.debug source) s.world
      simp only [Session.image, hrun]
  | yield => simp only [Step.run, Session.image, turn_image h.answer]
  | waitSeeded => simp only [Step.run, Session.image, waitSeeded_image h.answer]
  | enter => simp only [Step.run, Session.image, World.image_beginSeed]
  | close => simp only [Step.run, Session.image, requestClose_image]
  | change c =>
    simp only [Step.run, Change.applyTo, Session.image, World.image]
    cases c.catalog with
    | none => rfl
    | some rows => simp only [h.relist]

/-- Every step of a run has the same outcome, and the session after it is the image. -/
theorem runAll_image (h : side'.Mirrors f side) (steps : List (Step × ι)) (s : Session σ) :
    runAll side' steps (s.image f) = (runAll side steps s).map fun x => (x.1, x.2.image f) := by
  induction steps generalizing s with
  | nil => rfl
  | cons first rest ih =>
    obtain ⟨step, given⟩ := first
    let begun : Session σ := { s with world := s.world.fresh (side.supply given s.world.remote) }
    have hbegun : ({ s.image f with
        world := (s.image f).world.fresh (side'.supply given (s.image f).world.remote) } :
          Session τ) = begun.image f := by
      simp only [begun, Session.image, World.image, World.fresh, h.supply]
    rw [runAll, hbegun, step_image h]
    exact congrArg (List.cons _) (ih _)

end Adapter

end SqlBridge
