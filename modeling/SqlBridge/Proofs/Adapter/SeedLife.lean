import Mathlib.Logic.Relation
import SqlBridge.Proofs.Adapter.Stage

/-!
The life cycle of the background reading. It starts once, its cancellation is requested at most
once, and it ends as done, failed or cancelled, for any steps of a run in any order. The catalog is
read only while the reading is pending, and a wait after the end returns the outcome of the reading.
-/

namespace SqlBridge

namespace Seed

/-- The transitions of the background reading. -/
inductive Moves : Seed → Seed → Prop
  | begin : Moves .absent .pending
  | ask : Moves .pending .cancelling
  | finish : Moves .pending .done
  | fail (f : Failure) : Moves .pending (.failed f)
  | abandon : Moves .pending .cancelled
  | stop : Moves .cancelling .cancelled

def Leads : Seed → Seed → Prop := Relation.ReflTransGen Moves

/-- The final states. -/
def isOver : Seed → Bool
  | .done => true
  | .failed _ => true
  | .cancelled => true
  | _ => false

def begun : Seed → Seed
  | .absent => .pending
  | s => s

/-- The state after a turn of a reading whose outcome would be `o`. -/
def turned (o : Outcome Nat) : Seed → Seed
  | .pending => ended o
  | .cancelling => .cancelled
  | s => s

/-- The number of times that the catalog may still be read. -/
def budget : Seed → Nat
  | .absent => 1
  | .pending => 1
  | _ => 0

theorem not_moves_of_isOver {s s' : Seed} (h : s.isOver = true) : ¬Moves s s' := by
  intro hmoves
  cases hmoves <;> cases h

theorem eq_of_leads_of_isOver {s s' : Seed} (h : Leads s s') (hover : s.isOver = true) :
    s' = s := by
  rcases Relation.ReflTransGen.cases_head h with rfl | ⟨next, hnext, -⟩
  · rfl
  · exact absurd hnext (not_moves_of_isOver hover)

/-- A reading whose cancellation was requested stays in that state or becomes cancelled. -/
theorem eq_of_leads_of_cancelling {s : Seed} (h : Leads .cancelling s) :
    s = .cancelling ∨ s = .cancelled := by
  rcases Relation.ReflTransGen.cases_head h with rfl | ⟨next, hnext, hrest⟩
  · exact Or.inl rfl
  · cases hnext
    exact Or.inr (eq_of_leads_of_isOver hrest rfl)

theorem leads_begun (s : Seed) : Leads s s.begun := by
  cases s with
  | absent => exact .single .begin
  | _ => exact .refl

theorem leads_turned (o : Outcome Nat) (s : Seed) : Leads s (s.turned o) := by
  cases s with
  | pending =>
    cases o with
    | ok n => exact .single .finish
    | error f =>
      cases f with
      | cancelled => exact .single .abandon
      | _ => exact .single (.fail _)
  | cancelling => exact .single .stop
  | _ => exact .refl

theorem begun_begun (s : Seed) : s.begun.begun = s.begun := by cases s <;> rfl

theorem budget_begun (s : Seed) : s.begun.budget = s.budget := by cases s <;> rfl

theorem budget_le_one (s : Seed) : s.budget ≤ 1 := by cases s <;> simp [budget]

theorem isOver_ended (o : Outcome Nat) : (ended o).isOver = true := by
  cases o with
  | ok n => rfl
  | error f => cases f <;> rfl

theorem budget_eq_zero_of_isOver {s : Seed} (h : s.isOver = true) : s.budget = 0 := by
  cases s <;> first | rfl | cases h

end Seed

@[simp] theorem World.seed_beginSeed {σ : Type} (w : World σ) :
    w.beginSeed.seed = w.seed.begun := by
  cases hseed : w.seed <;> simp [World.beginSeed, hseed, Seed.begun]

/-- A task changes the state of the reading only by starting it. -/
theorem Task.seed_run {σ α : Type} (answer : Executor σ) (t : Task α) (w : World σ) :
    (t.run answer w).2.seed = w.seed ∨ (t.run answer w).2.seed = w.seed.begun := by
  induction t generalizing w with
  | done a => exact Or.inl rfl
  | fail f => exact Or.inl rfl
  | send call next ih =>
    simp only [run]
    cases answer call w.remote with
    | mk o remote =>
      cases o with
      | ok r => exact ih r { w.record call with remote }
      | error f => exact Or.inl rfl
  | look next ih => exact ih w.registry w
  | learn names next ih => exact ih (w.learn names)
  | beginSeed next ih =>
    have hrest := ih w.beginSeed
    rw [World.seed_beginSeed, Seed.begun_begun, or_self] at hrest
    exact Or.inr hrest
  | note e next ih => exact ih (w.note e)

namespace Adapter

open Remote

theorem seed_turn (w : ScriptedWorld) :
    (turn Script.answer w).seed = w.seed.turned (Registry.seed.run Script.answer w).1 := by
  obtain ⟨log, hrun⟩ := exists_runSeed_eq Script.answer w
  unfold turn
  cases hseed : w.seed with
  | pending =>
    simp only [hrun]
    rfl
  | _ => simp [World.setSeed, Seed.turned, hseed]

/-- The outcome of the reading does not depend on whether it has been started. -/
theorem outcome_beginSeed (w : ScriptedWorld) :
    (Registry.seed.run Script.answer w.beginSeed).1 = (Registry.seed.run Script.answer w).1 := by
  rw [Registry.outcome_seed, Registry.outcome_seed, World.remote_beginSeed]

/-- The state of the background reading after a step. -/
theorem seed_step (step : Step) (s : ScriptedSession) :
    (step.run scripted s).2.world.seed =
      match step with
      | .operate mapper readFirst o _ =>
        match mapperSource mapper readFirst with
        | .ok source => ((o.task s.options.debug source).run Script.answer s.world).2.seed
        | .error _ => s.world.seed
      | .yield => s.world.seed.turned (Registry.seed.run Script.answer s.world).1
      | .waitSeeded => s.world.seed.begun.turned (Registry.seed.run Script.answer s.world).1
      | .enter => s.world.seed.begun
      | .close => (requestClose s.world).seed
      | .change _ => s.world.seed := by
  cases step with
  | operate mapper readFirst o view =>
    simp only [Step.run, scripted]
    cases mapperSource mapper readFirst <;> rfl
  | yield => exact seed_turn s.world
  | waitSeeded =>
    rw [session_waitSeeded]
    change (turn Script.answer s.world.beginSeed).seed = _
    rw [seed_turn, World.seed_beginSeed, outcome_beginSeed]
  | enter => exact World.seed_beginSeed s.world
  | close => rfl
  | change c => rfl

theorem leads_close (w : ScriptedWorld) : Seed.Leads w.seed (requestClose w).seed := by
  unfold requestClose
  cases hseed : w.seed with
  | pending => exact .single .ask
  | _ =>
    rw [hseed]
    exact .refl

/-- Starting a reading that is over has no effect. -/
theorem beginSeed_of_isOver {w : ScriptedWorld} (h : w.seed.isOver = true) : w.beginSeed = w := by
  unfold World.beginSeed
  cases hseed : w.seed <;> first | rfl | simp [hseed, Seed.isOver] at h

theorem turn_of_isOver {w : ScriptedWorld} (h : w.seed.isOver = true) :
    turn Script.answer w = w := by
  unfold turn
  cases hseed : w.seed <;> first | rfl | simp [hseed, Seed.isOver] at h

theorem requestClose_of_isOver {w : ScriptedWorld} (h : w.seed.isOver = true) :
    requestClose w = w := by
  unfold requestClose
  cases hseed : w.seed <;> first | rfl | simp [hseed, Seed.isOver] at h

theorem seed_close {x : Stage} (hclose : x.step = .close)
    (hpending : Seed.label x.before.world.seed = "pending") : x.after.world.seed = .cancelling := by
  obtain ⟨step, before⟩ := x
  subst hclose
  change (requestClose before.world).seed = .cancelling
  unfold requestClose
  cases hseed : before.world.seed with
  | pending => rfl
  | cancelling => exact hseed
  | _ => simp [hseed, Seed.label] at hpending

/-- Every step makes transitions of the reading, or none. -/
theorem leads_step (step : Step) (s : ScriptedSession) :
    Seed.Leads s.world.seed (step.run scripted s).2.world.seed := by
  rw [seed_step]
  cases step with
  | operate mapper readFirst o view =>
    simp only
    cases mapperSource mapper readFirst with
    | error f => exact .refl
    | ok source =>
      simp only
      rcases Task.seed_run Script.answer (o.task s.options.debug source) s.world with hseed | hseed
      · rw [hseed]
        exact .refl
      · rw [hseed]
        exact Seed.leads_begun _
  | yield => exact Seed.leads_turned _ _
  | waitSeeded => exact (Seed.leads_begun _).trans (Seed.leads_turned _ _)
  | enter => exact Seed.leads_begun _
  | close => exact leads_close s.world
  | change c => exact .refl

/-- A turn that reads the catalog reduces the budget. -/
theorem readings_turn (w : ScriptedWorld) :
    readings (turn Script.answer w).calls + (turn Script.answer w).seed.budget ≤
      readings w.calls + w.seed.budget := by
  rw [calls_turn, seed_turn, readings_append]
  cases w.seed with
  | pending =>
    simp only [Seed.turned, Seed.budget_eq_zero_of_isOver (Seed.isOver_ended _), readings_catalog]
    exact le_rfl
  | _ => exact le_rfl

/-- A step reads the catalog at most as often as its budget decreases. -/
theorem readings_step (step : Step) (s : ScriptedSession) :
    readings (step.run scripted s).2.world.calls + (step.run scripted s).2.world.seed.budget ≤
      readings s.world.calls + s.world.seed.budget := by
  cases step with
  | operate mapper readFirst o view =>
    simp only [Step.run, scripted]
    cases mapperSource mapper readFirst with
    | error f => exact le_rfl
    | ok source =>
      have hbudget : ((o.task s.options.debug source).run Script.answer s.world).2.seed.budget =
          s.world.seed.budget := by
        rcases Task.seed_run Script.answer (o.task s.options.debug source) s.world with h | h
        · rw [h]
        · rw [h, Seed.budget_begun]
      simp only
      rw [readings_run, hbudget]
  | yield => exact readings_turn s.world
  | waitSeeded =>
    have hturn := readings_turn s.world.beginSeed
    rw [World.calls_beginSeed, World.seed_beginSeed, Seed.budget_begun] at hturn
    rw [session_waitSeeded]
    exact hturn
  | enter =>
    change readings s.world.beginSeed.calls + s.world.beginSeed.seed.budget ≤ _
    rw [World.calls_beginSeed, World.seed_beginSeed, Seed.budget_begun]
  | close =>
    simp only [Step.run, requestClose]
    cases hseed : s.world.seed <;> simp [World.setSeed, Seed.budget, hseed]
  | change c => exact le_rfl

/-- A run reads the catalog at most as often as its budget allows. -/
theorem readings_stages (steps : List (Step × List Remote.Reply)) (s : ScriptedSession) :
    readings ((stages steps s).flatMap Stage.calls) ≤ s.world.seed.budget := by
  induction steps generalizing s with
  | nil => exact Nat.zero_le _
  | cons first rest ih =>
    obtain ⟨step, replies⟩ := first
    let x : Stage := ⟨step, { s with world := s.world.prepare replies }⟩
    have hstep : readings x.calls + x.after.world.seed.budget ≤ 0 + s.world.seed.budget :=
      readings_step step x.before
    have hrest := ih x.after
    change readings (x.calls ++ (stages rest x.after).flatMap Stage.calls) ≤ _
    rw [readings_append]
    omega

/-- The state at a later stage is reached from that of an earlier one by transitions. -/
theorem leads_of_mem_stages {steps : List (Step × List Remote.Reply)} {s : ScriptedSession}
    {x : Stage} (hx : x ∈ stages steps s) : Seed.Leads s.world.seed x.after.world.seed := by
  induction steps generalizing s with
  | nil => cases hx
  | cons first rest ih =>
    obtain ⟨step, replies⟩ := first
    have hstep := leads_step step { s with world := s.world.prepare replies }
    rcases List.mem_cons.mp hx with rfl | hx
    · exact hstep
    · exact hstep.trans (ih hx)

theorem pairwise_leads (steps : List (Step × List Remote.Reply)) (s : ScriptedSession) :
    (s.world.seed :: (stages steps s).map fun x => x.after.world.seed).Pairwise Seed.Leads := by
  induction steps generalizing s with
  | nil => exact List.pairwise_singleton _ _
  | cons first rest ih =>
    refine List.pairwise_cons.mpr ⟨?_, ih _⟩
    intro seed hseed
    obtain ⟨x, hx, rfl⟩ := List.mem_map.mp hseed
    exact leads_of_mem_stages hx

/-- After a step that reads the catalog the state is the outcome of the reading. -/
theorem seed_of_readings {step : Step} {s : ScriptedSession}
    (h : readings s.world.calls < readings (step.run scripted s).2.world.calls) :
    (step.run scripted s).2.world.seed =
      Seed.ended (Registry.seed.run Script.answer s.world).1 := by
  have hturned : ∀ {w : ScriptedWorld}, readings w.calls < readings (turn Script.answer w).calls →
      w.seed.turned (Registry.seed.run Script.answer w).1 =
        Seed.ended (Registry.seed.run Script.answer w).1 := by
    intro w hread
    rw [calls_turn, readings_append] at hread
    cases hseed : w.seed with
    | pending => rfl
    | _ => simp [hseed, readings] at hread
  rw [seed_step]
  cases step with
  | operate mapper readFirst o view =>
    simp only [Step.run, scripted] at h
    cases hsource : mapperSource mapper readFirst with
    | error f =>
      rw [hsource] at h
      exact absurd h (lt_irrefl _)
    | ok source =>
      rw [hsource] at h
      simp only [readings_run] at h
      exact absurd h (lt_irrefl _)
  | yield => exact hturned h
  | waitSeeded =>
    rw [session_waitSeeded] at h
    have hbegun := hturned (w := s.world.beginSeed) (by rwa [World.calls_beginSeed])
    rwa [World.seed_beginSeed, outcome_beginSeed] at hbegun
  | enter =>
    change readings s.world.calls < readings s.world.beginSeed.calls at h
    rw [World.calls_beginSeed] at h
    exact absurd h (lt_irrefl _)
  | close =>
    obtain ⟨seed, hclose⟩ := exists_requestClose_eq s.world
    simp only [Step.run, hclose] at h
    exact absurd h (lt_irrefl _)
  | change c => exact absurd h (lt_irrefl _)

/-- A wait for a reading that is over changes nothing and returns its outcome. -/
theorem run_waitSeeded_of_isOver {s : ScriptedSession} (hover : s.world.seed.isOver = true) :
    Step.waitSeeded.run scripted s =
      (match s.world.seed with
        | .failed f => .error f
        | .cancelled => .error .cancelled
        | _ => .ok (.value .null), s) := by
  cases hseed : s.world.seed with
  | absent => simp [hseed, Seed.isOver] at hover
  | pending => simp [hseed, Seed.isOver] at hover
  | cancelling => simp [hseed, Seed.isOver] at hover
  | _ => simp only [Step.run, waitSeeded, World.beginSeed, turn, hseed]; rfl

/-- The life cycle of the background reading over a run of any length, started before the run or
not. The catalog is read at most once. The states follow the transitions, and a final state is kept.
After the step that reads the catalog the state is the outcome of the reading. If a pending reading
is requested to close, the catalog is not read afterwards and the reading can only become cancelled.
A wait after the end sends nothing and returns the outcome of the reading. -/
theorem seed_life_cycle (steps : List (Step × List Remote.Reply)) (s : ScriptedSession) :
    runAll scripted steps s = (stages steps s).map (fun x => (x.answer, x.after)) ∧
      readings ((stages steps s).flatMap Stage.calls) ≤ 1 ∧
      (s.world.seed :: (stages steps s).map fun x => x.after.world.seed).Pairwise
        (fun seed later => Seed.Leads seed later ∧ (seed.isOver = true → later = seed)) ∧
      ∀ past x future, stages steps s = past ++ x :: future →
        (0 < readings x.calls →
          x.after.world.seed =
            Seed.ended (Registry.seed.run Script.answer x.before.world).1) ∧
        (x.step = .close → Seed.label x.before.world.seed = "pending" → ∀ y ∈ future,
          readings y.calls = 0 ∧
            (y.after.world.seed = .cancelling ∨ y.after.world.seed = .cancelled)) ∧
        (x.step = .waitSeeded → x.before.world.seed.isOver = true →
          x.calls = [] ∧ x.answer =
            match x.before.world.seed with
            | .failed f => .error f
            | .cancelled => .error .cancelled
            | _ => .ok (.value .null)) := by
  refine ⟨runAll_eq_stages steps s, ?_, ?_, ?_⟩
  · exact (readings_stages steps s).trans (Seed.budget_le_one _)
  · refine (pairwise_leads steps s).imp fun hleads => ⟨hleads, fun hover => ?_⟩
    exact Seed.eq_of_leads_of_isOver hleads hover
  · intro past x future hsplit
    have hbefore : x.before.world.calls = [] :=
      calls_before (hsplit ▸ List.mem_append_right past List.mem_cons_self)
    refine ⟨fun hread => ?_, fun hclose hpending y hy => ?_, fun hwait hover => ?_⟩
    · refine seed_of_readings ?_
      rw [hbefore]
      exact hread
    · have hafter : x.after.world.seed = .cancelling := seed_close hclose hpending
      obtain ⟨rest, rfl⟩ := exists_stages_of_split hsplit
      have hnone := readings_stages rest x.after
      rw [hafter] at hnone
      have hleads := leads_of_mem_stages hy
      rw [hafter] at hleads
      exact ⟨readings_of_mem (Nat.le_zero.mp hnone) hy, Seed.eq_of_leads_of_cancelling hleads⟩
    · have hrun := run_waitSeeded_of_isOver hover
      rw [← hwait] at hrun
      refine ⟨?_, congrArg Prod.fst hrun⟩
      have hafter : x.after = x.before := congrArg Prod.snd hrun
      rw [Stage.calls, hafter, hbefore]

/-- The adapter is closed before the first turn of its reading, and then used, entered and waited
for. -/
def closedSteps : List (Step × List Remote.Reply) :=
  [(.operate (.text "Post") false (.find (.int 1)) .reply, []), (.close, []), (.enter, []),
    (.operate (.text "Tag") false (.find (.int 2)) .reply, []), (.waitSeeded, []), (.yield, []),
    (.waitSeeded, [])]

def closedSession : ScriptedSession :=
  ⟨⟨false, false⟩, newWorld ⟨[.text "tag"], none, []⟩ true false []⟩

theorem seed_life_cycle_closed :
    (stages closedSteps closedSession).map (fun x => Seed.label x.after.world.seed) =
        ["pending", "pending", "pending", "pending", "cancelled", "cancelled", "cancelled"] ∧
      ∃ past x future, stages closedSteps closedSession = past ++ x :: future ∧
        x.step = .close ∧ Seed.label x.before.world.seed = "pending" ∧ future.length = 5 ∧
        ∀ y ∈ future, readings y.calls = 0 ∧
          (y.after.world.seed = .cancelling ∨ y.after.world.seed = .cancelled) := by
  have hlabels : (stages closedSteps closedSession).map
      (fun x => Seed.label x.after.world.seed) =
      ["pending", "pending", "pending", "pending", "cancelled", "cancelled", "cancelled"] := by
    decide +kernel
  have hclose : ∃ first x future, stages closedSteps closedSession = [first] ++ x :: future ∧
      x.step = .close ∧ Seed.label x.before.world.seed = "pending" ∧ future.length = 5 :=
    ⟨_, _, _, rfl, rfl, rfl, rfl⟩
  obtain ⟨first, x, future, hsplit, hstep, hpending, hlength⟩ := hclose
  have hafter := ((seed_life_cycle closedSteps closedSession).2.2.2 [first] x future hsplit).2.1
    hstep hpending
  exact ⟨hlabels, [first], x, future, hsplit, hstep, hpending, hlength, hafter⟩

end Adapter

end SqlBridge
