import SqlBridge.Proofs.Adapter.Refusal
import SqlBridge.Proofs.Adapter.SeedLife

/-!
Runs with provisioning off. The known tables are those known at the start and those learned by the
background reading, and only the reading adds to them. An operation on a table that is unknown at
that moment is refused, and one on a known table is not.
-/

namespace SqlBridge

/-- Whether a background reading has ended by running, without a cancellation. -/
def Seed.hasRun : Seed → Bool
  | .done => true
  | .failed _ => true
  | _ => false

namespace Seed

theorem hasRun_begun (s : Seed) : s.begun.hasRun = s.hasRun := by cases s <;> rfl

theorem hasRun_ended {o : Outcome Nat} (h : o ≠ .error .cancelled) : (ended o).hasRun = true := by
  cases o with
  | ok n => rfl
  | error f => cases f <;> first | rfl | exact absurd rfl h

end Seed

namespace Registry

open Remote

/-- A successful reading has learned all names of the catalog. -/
theorem learned_of_outcome_ok {w : ScriptedWorld} {n : Nat}
    (h : (seed.run Script.answer w).1 = .ok n) : w.remote.learned = w.remote.listed := by
  rw [outcome_seed, Script.answer_catalog] at h
  unfold Script.learned Script.listed
  cases hread : w.remote.catalogResult catalogSql with
  | error f => rfl
  | ok r =>
    simp only [hread] at h ⊢
    by_cases hcomplete : (learnable r.tableNames).2 = true
    · exact (List.takeWhile_prefix _).eq_of_length (of_decide_eq_true hcomplete)
    · rw [if_neg hcomplete] at h
      cases h

/-- Only the remote side cancels a running reading, and then no name has been learned. -/
theorem learned_of_cancelled {w : ScriptedWorld}
    (h : (seed.run Script.answer w).1 = .error .cancelled) : w.remote.learned = [] := by
  rw [outcome_seed, Script.answer_catalog] at h
  cases hread : w.remote.catalogResult catalogSql with
  | error f => exact Script.learned_of_unanswered hread
  | ok r =>
    simp only [hread] at h
    split at h <;> cases h

end Registry

namespace Adapter

open Sql Remote

variable {steps : List (Step × List Remote.Reply)} {s : ScriptedSession} {x : Stage}

/-- With provisioning off, an operation sends data statements only and keeps the registry. -/
theorem run_off (dbg : Bool) (source : MapperSource) (o : Operation) {w : ScriptedWorld}
    (hauto : w.registry.autocreate = false) :
    ((o.task dbg source).run Script.answer w).2.registry = w.registry ∧
      ∀ e ∈ (o.task dbg source).history Script.answer w, isProvisioning e.call.sql = false := by
  have hcourse := course_task Script.answer dbg source o w
  generalize (o.task dbg source).history Script.answer w = es at hcourse
  generalize ((o.task dbg source).run Script.answer w).2.registry = after at hcourse
  cases hcourse with
  | idle _ => exact ⟨rfl, by simp⟩
  | known _ _ h => exact ⟨rfl, fun e he => h.not_provisioning he⟩
  | refused _ _ hon _ _ _ => simp [hauto] at hon
  | provisioned _ _ hon _ _ _ => simp [hauto] at hon

/-- A step that runs the reading: its only call is the catalog statement, the state of the reading
is its outcome, and the registry has the names that it learned. -/
structure Reads (s s' : ScriptedSession) : Prop where
  unread : s.world.seed.hasRun = false
  runs : (Registry.seed.run Script.answer s.world).1 ≠ .error .cancelled
  calls : s'.world.calls = s.world.calls ++ [⟨catalogSql, []⟩]
  seed : s'.world.seed = Seed.ended (Registry.seed.run Script.answer s.world).1
  known : s'.world.registry.known = s.world.registry.known.insertAll s.world.remote.learned

/-- A step that keeps the registry, does not run the reading and provisions nothing. -/
structure Rests (s s' : ScriptedSession) : Prop where
  hasRun : s'.world.seed.hasRun = s.world.seed.hasRun
  calls : ∃ sent, s'.world.calls = s.world.calls ++ sent ∧
    ∀ call ∈ sent, isProvisioning call.sql = false
  known : s'.world.registry.known = s.world.registry.known

theorem Rests.of_silent {s s' : ScriptedSession} (hrun : s'.world.seed.hasRun = s.world.seed.hasRun)
    (hcalls : s'.world.calls = s.world.calls)
    (hknown : s'.world.registry.known = s.world.registry.known) : Rests s s' :=
  ⟨hrun, ⟨[], hcalls.trans (List.append_nil _).symm, by simp⟩, hknown⟩

theorem reads_or_rests_turn (s : ScriptedSession) :
    Reads s { s with world := turn Script.answer s.world } ∨
      Rests s { s with world := turn Script.answer s.world } := by
  have hcalls := calls_turn s.world
  have hseed := seed_turn s.world
  have hregistry := registry_turn s.world
  cases hbefore : s.world.seed with
  | pending =>
    rw [hbefore] at hcalls hseed hregistry
    have hunread : s.world.seed.hasRun = false := by
      rw [hbefore]
      rfl
    by_cases hcancelled : (Registry.seed.run Script.answer s.world).1 = .error .cancelled
    · rw [Registry.learned_of_cancelled hcancelled] at hregistry
      refine Or.inr ⟨?_, ⟨_, hcalls, ?_⟩, congrArg Registry.known hregistry⟩
      · simp only [hseed, hbefore, hcancelled]
        rfl
      · decide
    · exact Or.inl ⟨hunread, hcancelled, hcalls, hseed, congrArg Registry.known hregistry⟩
  | _ =>
    rw [hbefore] at hcalls hseed hregistry
    refine Or.inr (.of_silent ?_ (hcalls.trans (List.append_nil _))
      (congrArg Registry.known hregistry))
    simp only [hseed, hbefore]
    rfl

/-- With provisioning off, only the step that runs the reading changes the registry. -/
theorem reads_or_rests (step : Step) {s : ScriptedSession}
    (hauto : s.world.registry.autocreate = false) :
    Reads s (step.run scripted s).2 ∨ Rests s (step.run scripted s).2 := by
  cases step with
  | operate mapper readFirst o view =>
    simp only [Step.run, scripted]
    cases mapperSource mapper readFirst with
    | error f => exact Or.inr (.of_silent rfl rfl rfl)
    | ok source =>
      obtain ⟨hregistry, hsent⟩ := run_off s.options.debug source o hauto
      refine Or.inr ⟨?_, ⟨_, Task.calls_run _ _, ?_⟩, congrArg Registry.known hregistry⟩
      · rcases Task.seed_run Script.answer (o.task s.options.debug source) s.world with h | h
        · simp only [h]
        · simp only [h, Seed.hasRun_begun]
      · intro call hcall
        obtain ⟨e, he, rfl⟩ := List.mem_map.mp hcall
        exact hsent e he
  | yield => exact reads_or_rests_turn s
  | waitSeeded =>
    rw [session_waitSeeded]
    rcases reads_or_rests_turn { s with world := s.world.beginSeed } with h | h
    · refine Or.inl ⟨?_, ?_, ?_, ?_, ?_⟩
      · simpa [Seed.hasRun_begun] using h.unread
      · simpa [outcome_beginSeed] using h.runs
      · simpa using h.calls
      · simpa [outcome_beginSeed] using h.seed
      · simpa using h.known
    · refine Or.inr ⟨?_, ?_, ?_⟩
      · simpa [Seed.hasRun_begun] using h.hasRun
      · simpa using h.calls
      · simpa using h.known
  | enter =>
    refine Or.inr (.of_silent ?_ (World.calls_beginSeed s.world) ?_)
    · change s.world.beginSeed.seed.hasRun = _
      rw [World.seed_beginSeed, Seed.hasRun_begun]
    · exact congrArg Registry.known (World.registry_beginSeed s.world)
  | close =>
    obtain ⟨seed, hclose⟩ := exists_requestClose_eq s.world
    refine Or.inr (.of_silent ?_ ?_ ?_)
    · simp only [Step.run, requestClose]
      cases hseed : s.world.seed <;> simp [World.setSeed, Seed.hasRun, hseed]
    · simp only [Step.run, hclose]
      rfl
    · simp only [Step.run, hclose]
      rfl
  | change c => exact Or.inr (.of_silent rfl rfl rfl)

/-- A step without a change of that option keeps provisioning off. -/
theorem autocreate_step {step : Step} {s : ScriptedSession}
    (hauto : s.world.registry.autocreate = false)
    (hstep : ∀ c, step = .change c → c.autocreate ≠ some true) :
    (step.run scripted s).2.world.registry.autocreate = false := by
  have hsetting := congrArg Setting.autocreate (setting_step step s)
  change (step.run scripted s).2.world.registry.autocreate = _ at hsetting
  rw [hsetting]
  cases step with
  | change c =>
    have hchange := hstep c rfl
    simp only [Step.setting]
    cases hvalue : c.autocreate with
    | none => exact hauto
    | some value =>
      cases value with
      | true => exact absurd hvalue hchange
      | false => rfl
  | _ => exact hauto

/-- The known tables after the first stages of a run: those known at the start and those learned by
the reading, if it has run in one of them. -/
inductive Told (known : TableSet) (past : List Stage) (s : ScriptedSession) : Prop
  | unread (hseed : s.world.seed.hasRun = false) (hknown : s.world.registry.known = known)
  | read {x : Stage} (hx : x ∈ past) (hcalls : x.calls = [⟨catalogSql, []⟩])
    (hruns : (Registry.seed.run Script.answer x.before.world).1 ≠ .error .cancelled)
    (hseed : s.world.seed = Seed.ended (Registry.seed.run Script.answer x.before.world).1)
    (hknown : s.world.registry.known = known.insertAll x.before.world.remote.learned)

theorem Told.prepare {known : TableSet} {past : List Stage} (h : Told known past s)
    (replies : List Remote.Reply) :
    Told known past { s with world := s.world.prepare replies } := by
  cases h with
  | unread hseed hknown => exact .unread hseed hknown
  | read hx hcalls hruns hseed hknown => exact .read hx hcalls hruns hseed hknown

theorem Told.step {known : TableSet} {past : List Stage} {x : Stage}
    (h : Told known past x.before) (hauto : x.before.world.registry.autocreate = false)
    (hcalls : x.before.world.calls = []) : Told known (past ++ [x]) x.after := by
  rcases reads_or_rests x.step hauto with hreads | hrests
  · cases h with
    | unread _ hknown =>
      refine .read (x := x) (by simp) ?_ hreads.runs hreads.seed ?_
      · have hsent := hreads.calls
        rwa [hcalls] at hsent
      · have hlearned := hreads.known
        rwa [hknown] at hlearned
    | read hx _ hruns hseed _ =>
      have hunread := hreads.unread
      rw [hseed, Seed.hasRun_ended hruns] at hunread
      cases hunread
  · cases h with
    | unread hseed hknown => exact .unread (hrests.hasRun.trans hseed) (hrests.known.trans hknown)
    | read hx hread hruns hseed hknown =>
      -- The reading is over, so its state is kept.
      have hover : x.before.world.seed.isOver = true := by
        rw [hseed]
        exact Seed.isOver_ended _
      have hkept := Seed.eq_of_leads_of_isOver (leads_step x.step x.before) hover
      exact .read (List.mem_append_left _ hx) hread hruns (hkept.trans hseed)
        (hrests.known.trans hknown)

/-- The invariant of every stage of a run with provisioning off. -/
theorem told_of_split (hauto : s.world.registry.autocreate = false)
    (hsteps : ∀ x ∈ steps, ∀ c, x.1 = .change c → c.autocreate ≠ some true) {known : TableSet}
    {before : List Stage} (h : Told known before s) {past future : List Stage}
    (hsplit : stages steps s = past ++ x :: future) :
    x.before.world.registry.autocreate = false ∧ Told known (before ++ past) x.before := by
  induction steps generalizing s past before with
  | nil => simp [stages] at hsplit
  | cons first rest ih =>
    obtain ⟨step, replies⟩ := first
    let y : Stage := ⟨step, { s with world := s.world.prepare replies }⟩
    have hbefore : Told known before y.before := h.prepare replies
    change y :: stages rest y.after = past ++ x :: future at hsplit
    cases past with
    | nil =>
      obtain ⟨rfl, -⟩ := List.cons_eq_cons.mp hsplit
      rw [List.append_nil]
      exact ⟨hauto, hbefore⟩
    | cons z past =>
      obtain ⟨rfl, hrest⟩ := List.cons_eq_cons.mp hsplit
      have hafter : y.after.world.registry.autocreate = false :=
        autocreate_step (s := y.before) hauto (hsteps _ List.mem_cons_self)
      have hlater := ih hafter (fun z hz => hsteps z (List.mem_cons_of_mem _ hz))
        (hbefore.step hauto rfl) hrest
      rwa [List.append_assoc] at hlater

/-- An operation in a stage is refused exactly when its run is. -/
theorem refused_stage_iff {mapper : Value} {readFirst : Bool} {o : Operation} {view : View}
    {source : MapperSource} {m : Schema.Mapper} (hstep : x.step = .operate mapper readFirst o view)
    (hmapper : mapperSource mapper readFirst = .ok source) (hsource : source.resolve = .ok m)
    (hlooks : o.looksUp = true) (hauto : x.before.world.registry.autocreate = false)
    (hcalls : x.before.world.calls = []) :
    (x.answer = .error (.tableNotFound m.tableName) ∧ x.calls = []) ↔
      knows x.before.world.registry m.tableName = false := by
  obtain ⟨step, before⟩ := x
  subst hstep
  rw [← refused_iff Script.answer hlooks before.options.debug hsource hauto, hcalls]
  simp only [Stage.answer, Stage.calls, Stage.after, Step.run, scripted, hmapper]
  refine and_congr_left fun _ => ?_
  cases ((o.task before.options.debug source).run Script.answer before.world).1 with
  | ok r => simp
  | error f => simp

/-- A set with the members of another one and `names`. -/
def Extends (known : TableSet) (names : List Value) (more : TableSet) : Prop :=
  ∀ v, more.contains v = true ↔ known.contains v = true ∨ ∃ name ∈ names, name.key? = v.key?

/-- Runs with provisioning off, from a reading that has not run. No stage provisions a table. The
tables known after a stage are those known at the start and, once the reading has run, those that it
has learned: all names of the catalog, or if it failed those before the failure. An operation that
ensures its table first is refused without a call for the missing table if and only if the table is
unknown at that moment. -/
theorem nothing_provisioned_when_off (hauto : s.world.registry.autocreate = false)
    (hsteps : ∀ x ∈ steps, ∀ c, x.1 = .change c → c.autocreate ≠ some true)
    (hunread : s.world.seed.hasRun = false) :
    ∀ past x future, stages steps s = past ++ x :: future →
      (∀ call ∈ x.calls, isProvisioning call.sql = false) ∧
      (match x.after.world.seed with
        | .done => ∃ y ∈ past ++ [x], y.calls = [⟨catalogSql, []⟩] ∧
            Extends s.world.registry.known y.before.world.remote.listed
              x.after.world.registry.known
        | .failed f => ∃ y ∈ past ++ [x], y.calls = [⟨catalogSql, []⟩] ∧
            (Registry.seed.run Script.answer y.before.world).1 = .error f ∧
            Extends s.world.registry.known y.before.world.remote.learned
              x.after.world.registry.known
        | _ => x.after.world.registry.known = s.world.registry.known) ∧
      ∀ mapper readFirst o view source m, x.step = .operate mapper readFirst o view →
        mapperSource mapper readFirst = .ok source → source.resolve = .ok m →
        o.looksUp = true →
        ((x.answer = .error (.tableNotFound m.tableName) ∧ x.calls = []) ↔
          knows x.before.world.registry m.tableName = false) := by
  intro past x future hsplit
  have hcalls : x.before.world.calls = [] :=
    calls_before (hsplit ▸ List.mem_append_right past List.mem_cons_self)
  have hstart : Told s.world.registry.known [] s := .unread hunread rfl
  obtain ⟨hoff, htold⟩ := told_of_split hauto hsteps hstart hsplit
  rw [List.nil_append] at htold
  refine ⟨?_, ?_, fun mapper readFirst o view source m hstep hmapper hsource hlooks =>
    refused_stage_iff hstep hmapper hsource hlooks hoff hcalls⟩
  · rcases reads_or_rests x.step hoff with hreads | hrests
    · have hsent : x.calls = [⟨catalogSql, []⟩] := by
        have hsent := hreads.calls
        rwa [hcalls] at hsent
      rw [hsent]
      decide
    · obtain ⟨sent, hsent, hdata⟩ := hrests.calls
      rw [hcalls] at hsent
      change x.calls = sent at hsent
      rwa [hsent]
  · have hafter := htold.step hoff hcalls
    cases hafter with
    | unread hseed hknown =>
      cases hend : x.after.world.seed with
      | done => simp [hend, Seed.hasRun] at hseed
      | failed f => simp [hend, Seed.hasRun] at hseed
      | _ => exact hknown
    | @read y hy hread hruns hseed hknown =>
      have hextends : Extends s.world.registry.known y.before.world.remote.learned
          x.after.world.registry.known := by
        intro v
        rw [hknown, TableSet.contains_insertAll_iff]
      cases houtcome : (Registry.seed.run Script.answer y.before.world).1 with
      | ok n =>
        rw [houtcome] at hseed
        rw [Registry.learned_of_outcome_ok houtcome] at hextends
        rw [hseed]
        exact ⟨y, hy, hread, hextends⟩
      | error f =>
        rw [houtcome] at hseed hruns
        rw [hseed]
        cases f with
        | cancelled => exact absurd rfl hruns
        | _ => exact ⟨y, hy, hread, houtcome, hextends⟩

/-- An operation before and after a reading learns its table. A catalog that is set later is not
read. -/
def restrictedSteps : List (Step × List Remote.Reply) :=
  [(.operate (.text "Post") false (.find (.int 1)) .reply, []), (.yield, []),
    (.change ⟨some false, none, none, some [.text "tag"]⟩, []), (.yield, []),
    (.operate (.text "Post") false
      (.update (.int 1) (.object [("title", .text "new")])) .reply, []),
    (.operate (.text "Tag") false (.destroyAll .null) .reply, [])]

/-- A session with provisioning off and one known table. -/
def restrictedSession (catalog : List Value) : ScriptedSession :=
  ⟨⟨false, false⟩, newWorld ⟨catalog, none, []⟩ false true ["note"]⟩

theorem nothing_provisioned_when_off_listed :
    (stages restrictedSteps (restrictedSession [.text "post"])).map
        (fun x => (x.calls.length, x.after.world.registry.known.names.map Value.shown)) =
      [(0, ["note"]), (1, ["note", "post"]), (0, ["note", "post"]), (0, ["note", "post"]),
        (2, ["note", "post"]), (0, ["note", "post"])] ∧
      ∃ past x future, stages restrictedSteps (restrictedSession [.text "post"]) =
          past ++ x :: future ∧ past.length = 5 ∧
        x.answer = .error (.tableNotFound "tag") ∧ x.calls = [] := by
  have hsteps : ∀ x ∈ restrictedSteps, ∀ c, x.1 = .change c → c.autocreate ≠ some true := by
    simp [restrictedSteps]
  have hlast : ∃ past x future, stages restrictedSteps (restrictedSession [.text "post"]) =
      past ++ x :: future ∧ past.length = 5 ∧
        x.step = .operate (.text "Tag") false (.destroyAll .null) .reply ∧
        knows x.before.world.registry "tag" = false :=
    ⟨[_, _, _, _, _], _, _, rfl, rfl, rfl, by decide +kernel⟩
  obtain ⟨past, x, future, hsplit, hlength, hstep, hunknown⟩ := hlast
  have hrefused := (nothing_provisioned_when_off (s := restrictedSession [.text "post"]) rfl hsteps
    rfl past x future hsplit).2.2 _ _ _ _ (.described (.text "Tag"))
    (Schema.Mapper.ofName "Tag") hstep rfl rfl rfl
  exact ⟨by decide +kernel, past, x, future, hsplit, hlength, hrefused.mpr hunknown⟩

/-- A reading that fails at a later name leaves the names before it known, though its state is not
done. -/
theorem failed_reading_leaves_tables :
    ¬∀ (steps : List (Step × List Remote.Reply)) (s : ScriptedSession),
      s.world.registry.autocreate = false →
      (∀ x ∈ steps, ∀ c, x.1 = .change c → c.autocreate ≠ some true) →
      s.world.seed.hasRun = false →
      ∀ x ∈ stages steps s, Seed.label x.after.world.seed ≠ "done" →
        ∀ v, x.after.world.registry.known.contains v = s.world.registry.known.contains v := by
  intro h
  have hsame := h [(.yield, [])]
    (restrictedSession [.text "post", .object [("name", .list [.int 1])]]) rfl (by simp) rfl _
    List.mem_cons_self (by decide +kernel) (.text "post")
  exact absurd hsame (by decide +kernel)

end Adapter

end SqlBridge
