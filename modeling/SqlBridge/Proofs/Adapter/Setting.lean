import SqlBridge.Adapter.Session
import SqlBridge.Proofs.Remote.Catalog
import SqlBridge.Proofs.Task.Run

/-!
The setting of a session: its options, its catalog, and whether provisioning is on. It is altered by
changes only, not by operations or the background reading.
-/

namespace SqlBridge

namespace Task

variable {σ α : Type}

/-- A task does not switch provisioning on or off. -/
theorem autocreate_run (answer : Executor σ) (t : Task α) (w : World σ) :
    (t.run answer w).2.registry.autocreate = w.registry.autocreate := by
  induction t generalizing w with
  | done a => rfl
  | fail f => rfl
  | send call next ih =>
    simp only [run]
    cases answer call w.remote with
    | mk o remote =>
      cases o with
      | ok r => exact ih r { w.record call with remote }
      | error f => rfl
  | look next ih => exact ih w.registry w
  | learn names next ih => exact ih (w.learn names)
  | beginSeed next ih =>
    have hrest := ih w.beginSeed
    rwa [World.registry_beginSeed] at hrest
  | note e next ih => exact ih (w.note e)

/-- A task does not change the catalog. -/
theorem catalog_run (t : Task α) (w : Remote.ScriptedWorld) :
    (t.run Remote.Script.answer w).2.remote.catalog = w.remote.catalog ∧
      (t.run Remote.Script.answer w).2.remote.catalogError = w.remote.catalogError := by
  induction t generalizing w with
  | done a => exact ⟨rfl, rfl⟩
  | fail f => exact ⟨rfl, rfl⟩
  | send call next ih =>
    have hanswer := Remote.Script.catalog_answer call w.remote
    simp only [run]
    cases hpair : Remote.Script.answer call w.remote with
    | mk o remote =>
      rw [hpair] at hanswer
      cases o with
      | ok r =>
        have hrest := ih r { w.record call with remote }
        exact ⟨hrest.1.trans hanswer.1, hrest.2.trans hanswer.2⟩
      | error f => exact hanswer
  | look next ih => exact ih w.registry w
  | learn names next ih => exact ih (w.learn names)
  | beginSeed next ih =>
    have hrest := ih w.beginSeed
    rwa [World.remote_beginSeed] at hrest
  | note e next ih => exact ih (w.note e)

end Task

namespace Adapter

open Remote

/-- The end of the background reading changes its state and the log only. -/
theorem exists_runSeed_eq {σ : Type} (answer : Executor σ) (w : World σ) :
    ∃ log, runSeed answer w = { (Registry.seed.run answer w).2 with
      seed := .ended (Registry.seed.run answer w).1, log } := by
  unfold runSeed
  generalize Registry.seed.run answer w = ended
  rcases ended with ⟨f | n, after⟩
  · cases f <;> exact ⟨_, rfl⟩
  · exact ⟨_, rfl⟩

/-- A wait for the background reading includes a turn of it. -/
theorem session_waitSeeded (s : ScriptedSession) :
    (Step.waitSeeded.run scripted s).2 =
      { s with world := turn Script.answer s.world.beginSeed } := by
  simp only [Step.run, scripted, waitSeeded]
  cases (turn Script.answer s.world.beginSeed).seed <;> rfl

/-- A request to close changes the background reading only. -/
theorem exists_requestClose_eq (w : ScriptedWorld) :
    ∃ seed, requestClose w = World.setSeed w seed := by
  unfold requestClose
  cases w.seed with
  | pending => exact ⟨.cancelling, rfl⟩
  | _ => exact ⟨w.seed, rfl⟩

/-- The part of a session that only a change alters: the options, the catalog, and whether
provisioning is on. -/
structure Setting where
  options : Options
  catalog : List Value
  catalogError : Option RemoteError
  autocreate : Bool

def Session.setting (s : ScriptedSession) : Setting :=
  ⟨s.options, s.world.remote.catalog, s.world.remote.catalogError, s.world.registry.autocreate⟩

/-- The setting after a step. -/
def Step.setting (step : Step) (x : Setting) : Setting :=
  match step with
  | .change c =>
    ⟨⟨c.debug.getD x.options.debug, c.raw.getD x.options.raw⟩, c.catalog.getD x.catalog,
      if c.catalog.isSome then none else x.catalogError, c.autocreate.getD x.autocreate⟩
  | _ => x

theorem setting_of_world {s : ScriptedSession} {w : ScriptedWorld}
    (hcatalog : w.remote.catalog = s.world.remote.catalog ∧
      w.remote.catalogError = s.world.remote.catalogError)
    (hauto : w.registry.autocreate = s.world.registry.autocreate) :
    ({ s with world := w } : ScriptedSession).setting = s.setting := by
  simp only [Session.setting, hcatalog, hauto]

theorem setting_run (o : Operation) (dbg : Bool) (source : MapperSource) (s : ScriptedSession) :
    ({ s with world := ((o.task dbg source).run Script.answer s.world).2 } :
      ScriptedSession).setting = s.setting :=
  setting_of_world (Task.catalog_run _ _) (Task.autocreate_run _ _ _)

theorem setting_turn (s : ScriptedSession) :
    ({ s with world := turn Script.answer s.world } : ScriptedSession).setting = s.setting := by
  obtain ⟨log, hrun⟩ := exists_runSeed_eq Script.answer s.world
  have hcatalog := Task.catalog_run Registry.seed s.world
  have hauto := Task.autocreate_run Script.answer Registry.seed s.world
  unfold turn
  cases s.world.seed with
  | pending =>
    simp only [hrun]
    exact setting_of_world hcatalog hauto
  | _ => rfl

theorem setting_beginSeed (s : ScriptedSession) :
    ({ s with world := s.world.beginSeed } : ScriptedSession).setting = s.setting := by
  simp only [Session.setting, World.remote_beginSeed, World.registry_beginSeed]

/-- The setting of the session after a step. -/
theorem setting_step (step : Step) (s : ScriptedSession) :
    (step.run scripted s).2.setting = step.setting s.setting := by
  cases step with
  | operate mapper readFirst operation view =>
    simp only [Step.run, scripted, Step.setting]
    cases mapperSource mapper readFirst with
    | error f => rfl
    | ok source => exact setting_run operation s.options.debug source s
  | yield => exact setting_turn s
  | waitSeeded =>
    have hturn := setting_turn { s with world := s.world.beginSeed }
    have hbegin : ({ s with world := s.world.beginSeed } : ScriptedSession).setting = s.setting :=
      setting_beginSeed s
    rw [session_waitSeeded]
    exact hturn.trans hbegin
  | enter => exact setting_beginSeed s
  | close =>
    obtain ⟨seed, hclose⟩ := exists_requestClose_eq s.world
    simp only [Step.run, hclose]
    rfl
  | change c =>
    simp only [Step.run, scripted, Step.setting, Session.setting, Change.applyTo]
    cases c.catalog <;> rfl

end Adapter

end SqlBridge
