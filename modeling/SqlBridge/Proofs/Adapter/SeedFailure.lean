import SqlBridge.Proofs.Adapter.SeedLife

/-!
Failing background readings. A run over a catalog whose reading fails has the same operations, calls
and known tables as the run over a catalog of the names that the failed reading had learned; these
are none when the catalog statement itself fails. Two worlds in which the one reading stands in for
the other are related by every step that keeps the catalog, because no operation reads the catalog
or the state of the background reading.
-/

namespace SqlBridge

open Remote

/-- The answer to a call other than the catalog statement does not depend on the catalog. -/
theorem Remote.Script.answer_congr {call : Call} {s s' : Script} (hcall : call.sql ≠ catalogSql)
    (hreplies : s.replies = s'.replies) :
    (answer call s).1 = (answer call s').1 ∧
      (answer call s).2.replies = (answer call s').2.replies := by
  obtain ⟨catalog, catalogError, replies⟩ := s
  obtain ⟨catalog', catalogError', replies'⟩ := s'
  subst hreplies
  unfold answer
  rw [if_neg hcall, if_neg hcall]
  cases replies with
  | nil => exact ⟨rfl, rfl⟩
  | cons reply rest =>
    simp only
    split <;> exact ⟨rfl, rfl⟩

/-- A reading that failed with `f` and one that succeeded. -/
def Seed.FailedBeside (f : Failure) (seed seed' : Seed) : Prop :=
  seed = .ended (.error f) ∧ seed' = .done

/-- Worlds that differ in the catalog and in the state of its reading only. The reading of the first
fails with `f`; that of the second learns the same `n` names and succeeds. An interruption ends the
program and is therefore excluded. -/
structure World.StandsIn (f : Failure) (n : Nat) (w w' : ScriptedWorld) : Prop where
  goesOn : f ≠ .interrupted
  registry : w.registry = w'.registry
  replies : w.remote.replies = w'.remote.replies
  calls : w.calls = w'.calls
  learned : w.remote.learned = w'.remote.learned
  fails : (Registry.seed.run Script.answer w).1 = .error f
  succeeds : (Registry.seed.run Script.answer w').1 = .ok n
  seed : w.seed = w'.seed ∨ w.seed.FailedBeside f w'.seed

namespace World.StandsIn

variable {f : Failure} {n : Nat} {w w' v v' : ScriptedWorld}

/-- The relation after a step that keeps both catalogs. -/
theorem next (h : StandsIn f n w w')
    (hcatalog : v.remote.catalog = w.remote.catalog ∧
      v.remote.catalogError = w.remote.catalogError)
    (hcatalog' : v'.remote.catalog = w'.remote.catalog ∧
      v'.remote.catalogError = w'.remote.catalogError)
    (hregistry : v.registry = v'.registry) (hreplies : v.remote.replies = v'.remote.replies)
    (hcalls : v.calls = v'.calls)
    (hseed : v.seed = v'.seed ∨ v.seed.FailedBeside f v'.seed) : StandsIn f n v v' := by
  refine ⟨h.goesOn, hregistry, hreplies, hcalls, ?_, ?_, ?_, hseed⟩
  · rw [Script.learned_eq hcatalog.1 hcatalog.2, Script.learned_eq hcatalog'.1 hcatalog'.2,
      h.learned]
  · rw [Registry.outcome_seed_congr hcatalog.1 hcatalog.2, h.fails]
  · rw [Registry.outcome_seed_congr hcatalog'.1 hcatalog'.2, h.succeeds]

/-- Readings that are both over stay over. -/
theorem isOver (h : w.seed.FailedBeside f w'.seed) :
    w.seed.isOver = true ∧ w'.seed.isOver = true := by
  rw [h.1, h.2]
  exact ⟨Seed.isOver_ended _, rfl⟩

theorem beginSeed (h : StandsIn f n w w') : StandsIn f n w.beginSeed w'.beginSeed := by
  rcases h.seed with hsame | hended
  · refine h.next (by simp) (by simp) ?_ ?_ ?_ ?_
    · simpa using h.registry
    · simpa using h.replies
    · simpa using h.calls
    · simp [hsame]
  · obtain ⟨hover, hover'⟩ := isOver hended
    rwa [Adapter.beginSeed_of_isOver hover, Adapter.beginSeed_of_isOver hover']

/-- After a turn of both readings the same names are known, though one has failed. -/
theorem turn (h : StandsIn f n w w') :
    StandsIn f n (Adapter.turn Script.answer w) (Adapter.turn Script.answer w') := by
  rcases h.seed with hsame | hended
  · refine h.next (by rw [Adapter.remote_turn]; exact ⟨rfl, rfl⟩)
      (by rw [Adapter.remote_turn]; exact ⟨rfl, rfl⟩) ?_ ?_ ?_ ?_
    · rw [Adapter.registry_turn, Adapter.registry_turn, h.registry, h.learned, hsame]
    · rw [Adapter.remote_turn, Adapter.remote_turn, h.replies]
    · rw [Adapter.calls_turn, Adapter.calls_turn, h.calls, hsame]
    · rw [Adapter.seed_turn, Adapter.seed_turn, h.fails, h.succeeds, hsame]
      cases w'.seed with
      | pending => exact Or.inr ⟨rfl, rfl⟩
      | _ => exact Or.inl rfl
  · obtain ⟨hover, hover'⟩ := isOver hended
    rwa [Adapter.turn_of_isOver hover, Adapter.turn_of_isOver hover']

theorem requestClose (h : StandsIn f n w w') :
    StandsIn f n (Adapter.requestClose w) (Adapter.requestClose w') := by
  rcases h.seed with hsame | hended
  · unfold Adapter.requestClose
    rw [hsame]
    cases w'.seed with
    | pending =>
      exact h.next ⟨rfl, rfl⟩ ⟨rfl, rfl⟩ h.registry h.replies h.calls (Or.inl rfl)
    | _ => exact h
  · obtain ⟨hover, hover'⟩ := isOver hended
    rwa [Adapter.requestClose_of_isOver hover, Adapter.requestClose_of_isOver hover']

/-- A task that does not read the catalog preserves the relation. -/
theorem run {α : Type} (t : Task α) (h : StandsIn f n w w')
    (hcalls : ∀ e ∈ t.history Script.answer w, e.call.sql ≠ catalogSql) :
    (t.run Script.answer w).1 = (t.run Script.answer w').1 ∧
      StandsIn f n (t.run Script.answer w).2 (t.run Script.answer w').2 := by
  induction t generalizing w w' with
  | done a => exact ⟨rfl, h⟩
  | fail g => exact ⟨rfl, h⟩
  | send call next ih =>
    -- The first call of the history is this one, so it has the same answer in both worlds.
    have hcall : call.sql ≠ catalogSql := by
      simp only [Task.history] at hcalls
      cases hanswer : Script.answer call w.remote with
      | mk o remote =>
        rw [hanswer] at hcalls
        cases o <;> exact hcalls _ List.mem_cons_self
    obtain ⟨houtcome, hreplies⟩ := Script.answer_congr hcall h.replies
    have hcatalog := Script.catalog_answer call w.remote
    have hcatalog' := Script.catalog_answer call w'.remote
    have hrecorded : w.calls ++ [call] = w'.calls ++ [call] := by rw [h.calls]
    simp only [Task.history, Task.run] at hcalls ⊢
    cases hanswer : Script.answer call w.remote with
    | mk o remote =>
      cases hanswer' : Script.answer call w'.remote with
      | mk o' remote' =>
        rw [hanswer, hanswer'] at houtcome hreplies
        rw [hanswer] at hcatalog hcalls
        rw [hanswer'] at hcatalog'
        cases houtcome
        have hanswered : StandsIn f n { w.record call with remote }
            { w'.record call with remote := remote' } :=
          h.next hcatalog hcatalog' h.registry hreplies hrecorded h.seed
        cases o with
        | ok r => exact ih r hanswered fun e he => hcalls e (List.mem_cons_of_mem _ he)
        | error g => exact ⟨rfl, hanswered⟩
  | look next ih =>
    simp only [Task.run, ← h.registry]
    exact ih w.registry h hcalls
  | learn names next ih =>
    refine ih (h.next ⟨rfl, rfl⟩ ⟨rfl, rfl⟩ ?_ h.replies h.calls h.seed) hcalls
    simp only [World.learn, h.registry]
  | beginSeed next ih => exact ih h.beginSeed hcalls
  | note e next ih =>
    exact ih (h.next ⟨rfl, rfl⟩ ⟨rfl, rfl⟩ h.registry h.replies h.calls h.seed) hcalls

end World.StandsIn

namespace Adapter

/-- The session with another catalog, whose reading the remote side does not refuse. -/
def Session.withCatalog (s : ScriptedSession) (rows : List Value) : ScriptedSession :=
  { s with world := { s.world with
      remote := { s.world.remote with catalog := rows, catalogError := none } } }

def Step.keepsCatalog : Step → Bool
  | .change c => c.catalog.isNone
  | _ => true

def Step.waits : Step → Bool
  | .waitSeeded => true
  | _ => false

/-- The observable part of a stage apart from the log and the background reading: its answer, unless
it waited for the reading, its calls, and the options, the registry and the remaining replies. -/
def Stage.shown (x : Stage) :
    Option (Outcome Answer) × List Call × Options × Registry × List Remote.Reply :=
  (if x.step.waits then none else some x.answer, x.calls, x.after.options,
    x.after.world.registry, x.after.world.remote.replies)

/-- Sessions with the same options over worlds in which one reading stands in for the other. -/
structure Session.StandsIn (f : Failure) (n : Nat) (s s' : ScriptedSession) : Prop where
  options : s.options = s'.options
  world : s.world.StandsIn f n s'.world

variable {f : Failure} {n : Nat} {s s' : ScriptedSession}

namespace Session.StandsIn

theorem prepare (h : StandsIn f n s s') (replies : List Remote.Reply) :
    StandsIn f n { s with world := s.world.prepare replies }
      { s' with world := s'.world.prepare replies } :=
  ⟨h.options, h.world.next ⟨rfl, rfl⟩ ⟨rfl, rfl⟩ h.world.registry rfl rfl h.world.seed⟩

/-- Steps other than waits have the same answers, and steps that keep the catalog preserve the
relation. -/
theorem step {step : Step} (hkeeps : step.keepsCatalog = true) (h : StandsIn f n s s') :
    (step.waits = false → (step.run scripted s).1 = (step.run scripted s').1) ∧
      StandsIn f n (step.run scripted s).2 (step.run scripted s').2 := by
  cases step with
  | operate mapper readFirst o view =>
    simp only [Step.run, scripted, h.options]
    cases mapperSource mapper readFirst with
    | error g => exact ⟨fun _ => rfl, h⟩
    | ok source =>
      have hcourse := course_task Script.answer s'.options.debug source o s.world
      obtain ⟨houtcome, hworld⟩ := h.world.run (o.task s'.options.debug source) hcourse.ne_catalog
      refine ⟨fun _ => ?_, rfl, hworld⟩
      exact congrArg (Except.map fun r => view.answer s'.options o r) houtcome
  | yield => exact ⟨fun _ => rfl, h.options, h.world.turn⟩
  | waitSeeded =>
    refine ⟨by simp [Step.waits], ?_⟩
    rw [session_waitSeeded, session_waitSeeded]
    exact ⟨h.options, h.world.beginSeed.turn⟩
  | enter => exact ⟨fun _ => rfl, h.options, h.world.beginSeed⟩
  | close => exact ⟨fun _ => rfl, h.options, h.world.requestClose⟩
  | change c =>
    have hcatalog : c.catalog = none := Option.isNone_iff_eq_none.mp hkeeps
    refine ⟨fun _ => rfl, ?_, ?_⟩
    · simp only [Step.run, scripted, Change.applyTo, h.options]
    · simp only [Step.run, Change.applyTo, hcatalog]
      refine h.world.next ⟨rfl, rfl⟩ ⟨rfl, rfl⟩ ?_ h.world.replies h.world.calls h.world.seed
      rw [h.world.registry]

end Session.StandsIn

/-- Stages with the same observable part whose readings are in the same state or both over. -/
structure Stage.StandsIn (f : Failure) (x y : Stage) : Prop where
  shown : x.shown = y.shown
  seed : x.after.world.seed = y.after.world.seed ∨
    x.after.world.seed.FailedBeside f y.after.world.seed

/-- The stages of a run have the same observable parts. -/
theorem Session.StandsIn.stages {steps : List (Step × List Remote.Reply)}
    (hkeeps : ∀ x ∈ steps, x.1.keepsCatalog = true) (h : StandsIn f n s s') :
    List.Forall₂ (Stage.StandsIn f) (stages steps s) (stages steps s') := by
  induction steps generalizing s s' with
  | nil => exact .nil
  | cons first rest ih =>
    obtain ⟨step, replies⟩ := first
    obtain ⟨hanswer, hafter⟩ := (h.prepare replies).step (hkeeps _ List.mem_cons_self)
    refine .cons ⟨?_, hafter.world.seed⟩
      (ih (fun x hx => hkeeps x (List.mem_cons_of_mem _ hx)) hafter)
    simp only [Stage.shown, Stage.answer, Stage.calls, Stage.after, hafter.options,
      hafter.world.calls, hafter.world.registry, hafter.world.replies]
    cases hwaits : step.waits with
    | true => rfl
    | false => rw [hanswer hwaits]

/-- A catalog of the names learned by a failing reading stands in for its catalog. -/
theorem Session.standsIn_withCatalog (hgoesOn : f ≠ .interrupted)
    (hfails : (Registry.seed.run Script.answer s.world).1 = .error f) :
    StandsIn f s.world.remote.learned.length s
      (s.withCatalog (rowsOf s.world.remote.learned)) := by
  refine ⟨rfl, hgoesOn, rfl, rfl, rfl, ?_, hfails, ?_, Or.inl rfl⟩
  · exact (Script.learned_rowsOf s.world.remote s.world.remote.replies).symm
  · exact Registry.outcome_seed_rowsOf s.world.remote rfl rfl

/-- A failing reading does not influence operations. Let a run keep the catalog, and let the reading
of the catalog fail with any error: a refusal, an error of the transport or of the program, or a
cancellation. Then the run has the same observable parts as the run over a catalog of the names that
the failed reading learns; the stages of the two runs differ only in waits for the reading, in its
state and in the log. When the catalog statement is not answered, or its rows cannot be read, no
name is learned and the other catalog is empty. -/
theorem failed_reading_unnoticed {steps : List (Step × List Remote.Reply)}
    (hkeeps : ∀ x ∈ steps, x.1.keepsCatalog = true) {s : ScriptedSession} {f : Failure}
    (hgoesOn : f ≠ .interrupted)
    (hfails : (Registry.seed.run Script.answer s.world).1 = .error f) :
    List.Forall₂ (Stage.StandsIn f) (stages steps s)
        (stages steps (s.withCatalog (rowsOf s.world.remote.learned))) ∧
      (Registry.seed.run Script.answer
          (s.withCatalog (rowsOf s.world.remote.learned)).world).1 =
        .ok s.world.remote.learned.length ∧
      ∀ g, s.world.remote.catalogResult catalogSql = .error g →
        rowsOf s.world.remote.learned = [] := by
  have hstands := Session.standsIn_withCatalog hgoesOn hfails
  refine ⟨hstands.stages hkeeps, hstands.world.succeeds, fun g hrefused => ?_⟩
  rw [Script.learned_of_unanswered hrefused]
  rfl

/-- A turn of the reading, and an operation on the table that it may have learned. -/
def readThenFind : List (Step × List Remote.Reply) :=
  [(.yield, []), (.operate (.text "Post") false (.find (.int 1)) .reply, []), (.waitSeeded, [])]

/-- A session with a catalog whose second name has no key. -/
def halfNamedSession : ScriptedSession :=
  ⟨⟨false, false⟩, newWorld ⟨[.object [("name", .text "post")],
    .object [("name", .list [.int 1])]], none, []⟩ true true []⟩

theorem failed_reading_unnoticed_half_named :
    rowsOf halfNamedSession.world.remote.learned = [.object [("name", .text "post")]] ∧
      List.Forall₂ (Stage.StandsIn (.wrongType "unhashable type: 'list'"))
        (stages readThenFind halfNamedSession)
        (stages readThenFind
          (halfNamedSession.withCatalog (rowsOf halfNamedSession.world.remote.learned))) ∧
      (stages readThenFind halfNamedSession).map
        (fun x => (x.calls.length, Seed.label x.after.world.seed)) =
        [(1, "failed"), (1, "failed"), (0, "failed")] := by
  have hkeeps : ∀ x ∈ readThenFind, x.1.keepsCatalog = true := by decide
  have hfails : (Registry.seed.run Script.answer halfNamedSession.world).1 =
      .error (.wrongType "unhashable type: 'list'") := rfl
  have hgoesOn : Failure.wrongType "unhashable type: 'list'" ≠ .interrupted := nofun
  exact ⟨rfl, (failed_reading_unnoticed hkeeps hgoesOn hfails).1, by decide +kernel⟩

/-- A reading whose catalog statement raises `make`. -/
def unreadSession (make : RemoteError) : ScriptedSession :=
  ⟨⟨false, false⟩, newWorld ⟨[.text "post"], some make, []⟩ true true []⟩

/-- An error of the program and a cancellation are further cases. -/
example : [fun _ => .transport .broken "catalog unavailable", fun _ => .cancelled].map
    (fun make => (stages readThenFind (unreadSession make)).map
      fun x => (x.calls.length, Seed.label x.after.world.seed)) =
    [[(1, "failed"), (2, "failed"), (0, "failed")],
      [(1, "cancelled"), (2, "cancelled"), (0, "cancelled")]] := by
  decide +kernel

/-- A reading that fails at a later name has learned the names before it, so an empty catalog does
not stand in for it. -/
theorem failed_reading_keeps_names :
    ¬∀ (steps : List (Step × List Remote.Reply)) (s : ScriptedSession) (f : Failure),
      (∀ x ∈ steps, x.1.keepsCatalog = true) → f ≠ .interrupted →
      (Registry.seed.run Script.answer s.world).1 = .error f →
      List.Forall₂ (fun x y => x.shown = y.shown) (stages steps s)
        (stages steps (s.withCatalog [])) := by
  intro h
  have hstages := h [(.yield, [])] halfNamedSession (.wrongType "unhashable type: 'list'")
    (by decide) nofun rfl
  have hknown := congrArg (fun shown => shown.2.2.2.1.known.contains (.text "post"))
    (List.forall₂_cons.mp hstages).1
  exact absurd hknown (by decide +kernel)

end Adapter

end SqlBridge
