import SqlBridge.Proofs.Adapter.Provisioning

/-!
The race of the background reading with the operations. With provisioning on and no failing reply,
an operation with an unknown table provisions it without an effect on its own statements. So runs
that differ only in the turns of the reading have the same answers and data statements.
-/

namespace SqlBridge

namespace Adapter

open Sql Remote

/-- A world with provisioning on and no failing replies. -/
structure Open (w : ScriptedWorld) : Prop where
  autocreate : w.registry.autocreate = true
  friendly : w.remote.Friendly

/-- Open worlds with the same remote side and the same data statements sent. The known tables, the
background reading and the log may differ. -/
structure Raced (w w' : ScriptedWorld) : Prop where
  isOpen : Open w
  isOpen' : Open w'
  remote : w.remote = w'.remote
  data : dataCalls w.calls = dataCalls w'.calls

/-- In an open world, ensuring a table changes neither the remote side nor the data statements. -/
theorem exists_run_ensureMapper {α : Type} {m : Schema.Mapper} {k : Unit → Task α}
    {w : ScriptedWorld} (h : Open w) :
    ∃ sure : ScriptedWorld,
      (Registry.ensureMapper m >>= k).run Script.answer w = (k ()).run Script.answer sure ∧
        Open sure ∧ sure.remote = w.remote ∧ dataCalls sure.calls = dataCalls w.calls := by
  obtain ⟨sql, hsql, hprovisioning⟩ := m.exists_createTable
  rw [Registry.ensureMapper_bind hsql]
  by_cases hknown : w.registry.known.contains (.text m.tableName) = true
  · refine ⟨w, ?_, h, rfl, rfl⟩
    simp only [Task.run, if_pos hknown]
  · let noted := w.note (Registry.tableEntry "Creating table" m.tableName [])
    let answered := noted.record ⟨sql, []⟩
    let sure := (answered.note (Registry.tableEntry "Table created" m.tableName
      [("sql", .text sql)])).learn [.text m.tableName]
    refine ⟨sure, ?_, ⟨h.autocreate, h.friendly⟩, rfl, ?_⟩
    · have hanswer : Script.answer ⟨sql, []⟩ w.remote = (.ok QueryResult.empty, w.remote) :=
        Script.answer_provisioning hprovisioning h.friendly
      simp only [Task.run, if_neg hknown, h.autocreate, if_true, World.remote_note, hanswer]
      rfl
    · change dataCalls (w.calls ++ [⟨sql, []⟩]) = dataCalls w.calls
      rw [dataCalls_append]
      simp [dataCalls, hprovisioning]

theorem Raced.record {w w' : ScriptedWorld} (h : Raced w w') (call : Call) {remote : Script}
    (hremote : remote.Friendly) :
    Raced { w.record call with remote } { w'.record call with remote } := by
  refine ⟨⟨h.isOpen.autocreate, hremote⟩, ⟨h.isOpen'.autocreate, hremote⟩, rfl, ?_⟩
  change dataCalls (w.calls ++ [call]) = dataCalls (w'.calls ++ [call])
  rw [dataCalls_append, dataCalls_append, h.data]

theorem Open.congr {w v : ScriptedWorld} (h : Open w) (hregistry : v.registry = w.registry)
    (hremote : v.remote = w.remote) : Open v := by
  refine ⟨?_, ?_⟩
  · rw [hregistry]
    exact h.autocreate
  · rw [hremote]
    exact h.friendly

theorem Raced.beginSeed {w w' : ScriptedWorld} (h : Raced w w') :
    Raced w.beginSeed w'.beginSeed := by
  refine ⟨h.isOpen.congr w.registry_beginSeed w.remote_beginSeed,
    h.isOpen'.congr w'.registry_beginSeed w'.remote_beginSeed, ?_, ?_⟩
  · rw [World.remote_beginSeed, World.remote_beginSeed, h.remote]
  · rw [World.calls_beginSeed, World.calls_beginSeed, h.data]

theorem Raced.note {w w' : ScriptedWorld} (h : Raced w w') (e : Log.Entry) :
    Raced (w.note e) (w'.note e) :=
  ⟨h.isOpen.congr rfl rfl, h.isOpen'.congr rfl rfl, h.remote, h.data⟩

/-- A task that conforms to its statements preserves the relation, whatever tables are known. -/
theorem Conforms.raced {α : Type} {owner : Outcome Schema.Mapper} {sure sure' : Bool}
    {statements : List (Outcome Statement)} {t : Task α}
    (h : Conforms owner sure t statements sure') {w w' : ScriptedWorld} (hw : Raced w w') :
    (t.run Script.answer w).1 = (t.run Script.answer w').1 ∧
      Raced (t.run Script.answer w).2 (t.run Script.answer w').2 := by
  induction h generalizing w w' with
  | done sure a => exact ⟨rfl, hw⟩
  | fail sure sure' f statements => exact ⟨rfl, hw⟩
  | note e _ ih => exact ih (hw.note e)
  | beginSeed _ ih => exact ih hw.beginSeed
  | @ensure m howner sure sure' k statements _ ih =>
    obtain ⟨v, hrun, hopen, hremote, hdata⟩ := exists_run_ensureMapper (k := k) (m := m) hw.isOpen
    obtain ⟨v', hrun', hopen', hremote', hdata'⟩ :=
      exists_run_ensureMapper (k := k) (m := m) hw.isOpen'
    rw [hrun, hrun']
    refine ih ⟨hopen, hopen', ?_, ?_⟩
    · rw [hremote, hremote', hw.remote]
    · rw [hdata, hdata', hw.data]
  | @send s f hrender sure' next statements _ ih =>
    have hfriendly := hw.isOpen.friendly.answer ⟨f.text, f.params⟩
    simp only [Task.run, ← hw.remote]
    cases hanswer : Script.answer ⟨f.text, f.params⟩ w.remote with
    | mk o remote =>
      rw [hanswer] at hfriendly
      cases o with
      | ok r => exact ih r (hw.record _ hfriendly)
      | error g => exact ⟨rfl, hw.record _ hfriendly⟩

/-- A session before a step, with the replies of the step. -/
def Session.prepare (s : ScriptedSession) (replies : List Remote.Reply) : ScriptedSession :=
  { s with world := s.world.prepare replies }

theorem raced_prepare {s s' : ScriptedSession} (h : s.setting = s'.setting)
    (hauto : s.setting.autocreate = true) {replies : List Remote.Reply}
    (hplain : ∀ reply ∈ replies, reply.isFailure = false) :
    Raced (s.prepare replies).world (s'.prepare replies).world := by
  have hauto' : s'.setting.autocreate = true := h ▸ hauto
  have hcatalog : s.world.remote.catalog = s'.world.remote.catalog :=
    congrArg Setting.catalog h
  have herror : s.world.remote.catalogError = s'.world.remote.catalogError :=
    congrArg Setting.catalogError h
  refine ⟨⟨hauto, hplain⟩, ⟨hauto', hplain⟩, ?_, rfl⟩
  simp only [Session.prepare, World.prepare, World.fresh, hcatalog, herror]

/-- An operation has the same answer and data statements in sessions with the same setting. -/
theorem operate_raced {s s' : ScriptedSession} (h : s.setting = s'.setting)
    (hauto : s.setting.autocreate = true) {replies : List Remote.Reply}
    (hplain : ∀ reply ∈ replies, reply.isFailure = false) (mapper : Value) (readFirst : Bool)
    (o : Operation) (view : View) :
    ((Step.operate mapper readFirst o view).run scripted (s.prepare replies)).1 =
        ((Step.operate mapper readFirst o view).run scripted (s'.prepare replies)).1 ∧
      dataCalls
          ((Step.operate mapper readFirst o view).run scripted (s.prepare replies)).2.world.calls =
        dataCalls ((Step.operate mapper readFirst o view).run scripted
          (s'.prepare replies)).2.world.calls := by
  have hraced := raced_prepare h hauto hplain
  have hoptions : (s.prepare replies).options = (s'.prepare replies).options :=
    congrArg Setting.options h
  simp only [Step.run, scripted, hoptions]
  cases mapperSource mapper readFirst with
  | error f => exact ⟨rfl, hraced.data⟩
  | ok source =>
    obtain ⟨sure, hconforms⟩ := exists_conforms_task (s'.prepare replies).options.debug source o
    obtain ⟨houtcome, hafter⟩ := hconforms.raced hraced
    exact ⟨congrArg (Except.map fun r => view.answer (s'.prepare replies).options o r) houtcome,
      hafter.data⟩

def Step.isOperation : Step → Bool
  | .operate _ _ _ _ => true
  | _ => false

def Step.isYield : Step → Bool
  | .yield => true
  | _ => false

/-- The observable part of the operations of a run: the answer and the data statements of each. -/
def operations (steps : List (Step × List Remote.Reply)) (s : ScriptedSession) :
    List (Outcome Answer × List Call) :=
  (steps.zip (runAll scripted steps s)).filterMap fun x =>
    if x.1.1.isOperation then some (x.2.1, dataCalls x.2.2.world.calls) else none

def withoutYields (steps : List (Step × List Remote.Reply)) : List (Step × List Remote.Reply) :=
  steps.filter fun x => !x.1.isYield

theorem operations_cons (step : Step) (replies : List Remote.Reply)
    (rest : List (Step × List Remote.Reply)) (s : ScriptedSession) :
    operations ((step, replies) :: rest) s =
      if step.isOperation then
        ((step.run scripted (s.prepare replies)).1,
            dataCalls (step.run scripted (s.prepare replies)).2.world.calls)
          :: operations rest (step.run scripted (s.prepare replies)).2
      else operations rest (step.run scripted (s.prepare replies)).2 := by
  simp only [operations, runAll, List.zip_cons_cons, List.filterMap_cons]
  by_cases hoperation : step.isOperation = true
  · simp only [if_pos hoperation]
    rfl
  · simp only [if_neg hoperation]
    rfl

/-- Operations without failing replies, and changes that keep provisioning on. -/
structure Untroubled (steps : List (Step × List Remote.Reply)) : Prop where
  replies : ∀ x ∈ steps, ∀ reply ∈ x.2, reply.isFailure = false
  changes : ∀ x ∈ steps, ∀ c, x.1 = .change c → c.autocreate ≠ some false

theorem Untroubled.tail {x : Step × List Remote.Reply} {rest : List (Step × List Remote.Reply)}
    (h : Untroubled (x :: rest)) : Untroubled rest :=
  ⟨fun y hy => h.replies y (List.mem_cons_of_mem x hy),
    fun y hy => h.changes y (List.mem_cons_of_mem x hy)⟩

/-- An untroubled step keeps provisioning on. -/
theorem Untroubled.autocreate {x : Step × List Remote.Reply}
    {rest : List (Step × List Remote.Reply)} (h : Untroubled (x :: rest)) {setting : Setting}
    (hauto : setting.autocreate = true) : (x.1.setting setting).autocreate = true := by
  cases hstep : x.1 with
  | change c =>
    have hchange := h.changes x List.mem_cons_self c hstep
    simp only [Step.setting]
    cases hauto' : c.autocreate with
    | none => exact hauto
    | some value =>
      cases value with
      | true => rfl
      | false => exact absurd hauto' hchange
  | _ => exact hauto

/-- The observable part of a run does not depend on the turns of the background reading. -/
theorem operations_withoutYields {steps : List (Step × List Remote.Reply)}
    (h : Untroubled (withoutYields steps)) {s s' : ScriptedSession}
    (hsetting : s.setting = s'.setting) (hauto : s.setting.autocreate = true) :
    operations steps s = operations (withoutYields steps) s' := by
  induction steps generalizing s s' with
  | nil => rfl
  | cons first rest ih =>
    obtain ⟨step, replies⟩ := first
    have hstep : (step.run scripted (s.prepare replies)).2.setting = step.setting s.setting :=
      setting_step step (s.prepare replies)
    have hstep' : (step.run scripted (s'.prepare replies)).2.setting = step.setting s'.setting :=
      setting_step step (s'.prepare replies)
    rw [operations_cons]
    by_cases hyield : step.isYield = true
    · -- The reading has a turn in the first run alone, and leaves the setting as it was.
      have hdropped : withoutYields ((step, replies) :: rest) = withoutYields rest := by
        simp [withoutYields, hyield]
      rw [hdropped] at h ⊢
      cases step with
      | yield =>
        rw [if_neg (by simp [Step.isOperation])]
        exact ih h (hstep.trans hsetting) (hstep ▸ hauto)
      | _ => cases hyield
    · have hkept : withoutYields ((step, replies) :: rest) =
          (step, replies) :: withoutYields rest := by
        simp [withoutYields, hyield]
      rw [hkept] at h ⊢
      rw [operations_cons]
      have hafter : (step.run scripted (s.prepare replies)).2.setting =
          (step.run scripted (s'.prepare replies)).2.setting := by
        rw [hstep, hstep', hsetting]
      have hstill : (step.run scripted (s.prepare replies)).2.setting.autocreate = true := by
        rw [hstep]
        exact h.autocreate hauto
      rw [ih h.tail hafter hstill]
      cases step with
      | operate mapper readFirst o view =>
        obtain ⟨houtcome, hdata⟩ := operate_raced hsetting hauto
          (h.replies _ List.mem_cons_self) mapper readFirst o view
        rw [houtcome, hdata]
      | _ => rfl

theorem catalog_of_turnEvents {w : ScriptedWorld} :
    ∀ e ∈ turnEvents w, e.exchange.call = ⟨catalogSql, []⟩ := by
  intro e he
  unfold turnEvents at he
  cases hseed : w.seed with
  | pending =>
    rw [hseed, Registry.history_seed] at he
    rw [List.mem_singleton.mp he]
  | _ =>
    rw [hseed] at he
    cases he

/-- A step other than an operation sends only the catalog statement. -/
theorem catalog_of_not_operation {step : Step} (h : step.isOperation = false)
    (s : ScriptedSession) :
    ∀ e ∈ step.events s, e.exchange.call = ⟨catalogSql, []⟩ := by
  cases step with
  | operate mapper readFirst o view => cases h
  | yield => exact catalog_of_turnEvents
  | waitSeeded => exact catalog_of_turnEvents
  | _ => simp [Step.events]

theorem calls_of_not_operation {steps : List (Step × List Remote.Reply)} {s : ScriptedSession} :
    ∀ x ∈ steps.zip (runAll scripted steps s), x.1.1.isOperation = false →
      ∀ call ∈ x.2.2.world.calls, call = ⟨catalogSql, []⟩ := by
  induction steps generalizing s with
  | nil => simp [runAll]
  | cons first rest ih =>
    obtain ⟨step, replies⟩ := first
    intro x hx hoperation call hcall
    simp only [runAll, List.zip_cons_cons] at hx
    rcases List.mem_cons.mp hx with rfl | hx
    · have haccounts := accounts_step step (s.prepare replies)
      have hcalls : (step.run scripted (s.prepare replies)).2.world.calls =
          (step.events (s.prepare replies)).map fun e => e.exchange.call := haccounts.calls_eq
      change call ∈ (step.run scripted (s.prepare replies)).2.world.calls at hcall
      rw [hcalls] at hcall
      obtain ⟨e, he, rfl⟩ := List.mem_map.mp hcall
      exact catalog_of_not_operation hoperation _ e he
    · exact ih x hx hoperation call hcall

/-- The turns of the background reading are irrelevant. Two runs that differ only in their yields
have the same answer for every operation and the same data statements, for any catalog. The other
calls are readings of the catalog and provisioning statements. -/
theorem seed_race_harmless {xs ys : List (Step × List Remote.Reply)} {s : ScriptedSession}
    (hsame : withoutYields xs = withoutYields ys) (huntroubled : Untroubled (withoutYields xs))
    (hauto : s.world.registry.autocreate = true) :
    operations xs s = operations ys s ∧
      ∀ x ∈ xs.zip (runAll scripted xs s) ++ ys.zip (runAll scripted ys s),
        x.1.1.isOperation = false → ∀ call ∈ x.2.2.world.calls, call = ⟨catalogSql, []⟩ := by
  have hxs : operations xs s = operations (withoutYields xs) s :=
    operations_withoutYields huntroubled rfl hauto
  have hys : operations ys s = operations (withoutYields ys) s :=
    operations_withoutYields (hsame ▸ huntroubled) rfl hauto
  refine ⟨?_, fun x hx => ?_⟩
  · rw [hxs, hys, hsame]
  · rcases List.mem_append.mp hx with hx | hx
    · exact calls_of_not_operation x hx
    · exact calls_of_not_operation x hx

/-- A read and a change of a table that the catalog lists. -/
def readAndChange : List (Step × List Remote.Reply) :=
  [(.operate (.text "Post") false (.findAll .null) .reply,
      [.result (.object [("results", .list [.object [("_id", .int 1)]])])]),
    (.operate (.text "Post") false (.update (.int 1) (.object [("title", .text "new")]))
      (.response none), [])]

def listedSession : ScriptedSession :=
  ⟨⟨false, true⟩, newWorld ⟨[.text "post"], none, []⟩ true true []⟩

/-- In one run the reading has no turn; in the other it has the first one, and the table is not
provisioned. -/
theorem seed_race_harmless_listed :
    withoutYields readAndChange = withoutYields ((.yield, []) :: readAndChange) ∧
      operations readAndChange listedSession =
        operations ((.yield, []) :: readAndChange) listedSession ∧
      (runAll scripted readAndChange listedSession).map (fun r => r.2.world.calls.length) = [2, 2] ∧
      (runAll scripted ((.yield, []) :: readAndChange) listedSession).map
        (fun r => r.2.world.calls.length) = [1, 1, 2] := by
  have huntroubled : Untroubled (withoutYields readAndChange) := by
    refine ⟨?_, ?_⟩
    · intro x hx reply hreply
      simp only [withoutYields, readAndChange, Step.isYield, List.filter_cons, Bool.not_false,
        if_true, List.filter_nil, List.mem_cons, List.not_mem_nil, or_false] at hx
      rcases hx with rfl | rfl
      · rw [List.mem_singleton.mp hreply]
        rfl
      · cases hreply
    · intro x hx c hc
      simp only [withoutYields, readAndChange, Step.isYield, List.filter_cons, Bool.not_false,
        if_true, List.filter_nil, List.mem_cons, List.not_mem_nil, or_false] at hx
      rcases hx with rfl | rfl <;> cases hc
  have hsame : withoutYields readAndChange = withoutYields ((.yield, []) :: readAndChange) := rfl
  have hauto : listedSession.world.registry.autocreate = true := rfl
  exact ⟨hsame, (seed_race_harmless hsame huntroubled hauto).1, by decide +kernel,
    by decide +kernel⟩

end Adapter

end SqlBridge
