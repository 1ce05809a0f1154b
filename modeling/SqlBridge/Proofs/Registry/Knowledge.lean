import SqlBridge.Proofs.Registry.Calls
import SqlBridge.Proofs.Remote.Catalog
import SqlBridge.Proofs.TableSet
import SqlBridge.Registry.Session

/-!
Known tables after a run. A step gains the names of its answer: immediately if it ends at its start,
otherwise when it is resumed, independently of the other steps. After every action, gathered or not,
the known tables are those known before with all gains.
-/

namespace SqlBridge

namespace Task

variable {σ α : Type}

/-- A task does not change the remote side before its call is answered. -/
theorem remote_start (t : Task α) (w : World σ) : (t.start w).2.remote = w.remote := by
  induction t generalizing w with
  | done a => rfl
  | fail f => rfl
  | send call next => rfl
  | look next ih => exact ih w.registry w
  | learn names next ih => exact ih (w.learn names)
  | beginSeed next ih => exact (ih w.beginSeed).trans (World.remote_beginSeed w)
  | note e next ih => exact ih (w.note e)

end Task

namespace Registry

open Remote

/-- The names that an ended step adds to the known tables: the given name, the ensured table, or the
names of a reading. A failed step adds none. -/
def Step.gains (listed : List Value) (step : Step) : Outcome Value → List Value
  | .error _ => []
  | .ok _ =>
    match step with
    | .ask (.ensureTable _ _ table _) => [.text table]
    | .ask (.ensureMapper mapper) =>
      match Schema.Mapper.read mapper with
      | .ok m => [.text m.tableName]
      | .error _ => []
    | .ask .seed => listed
    | .ask (.add table) => [.text table]
    | .ask (.contains _) => []
    | .setAutocreate _ => []
    | .setCatalog _ _ => []

/-- A world whose known tables are those of another one and `names`, with the same catalog. -/
structure Gained (w w' : ScriptedWorld) (names : List Value) : Prop where
  catalog : w'.remote.catalog = w.remote.catalog
  catalogError : w'.remote.catalogError = w.remote.catalogError
  known : ∀ v, v ∈ w'.registry.known.names ↔ v ∈ w.registry.known.names ∨ v ∈ names

theorem Gained.trans {w w' w'' : ScriptedWorld} {names more : List Value}
    (h : Gained w w' names) (h' : Gained w' w'' more) : Gained w w'' (names ++ more) := by
  refine ⟨h'.catalog.trans h.catalog, h'.catalogError.trans h.catalogError, fun v => ?_⟩
  rw [h'.known, h.known, List.mem_append, or_assoc]

/-- The remaining gains of a started step. Those of an ended step are known already; a suspended one
gains when it is resumed, after any other steps. -/
def Owes (step : Step) (w : ScriptedWorld) : Suspended Value → Prop
  | .ended o => ∀ listed, ∀ v ∈ step.gains listed o, v ∈ w.registry.known.names
  | .waiting call next => ∀ w', Script.TextNamed w'.remote.catalog →
      Gained w' (Suspended.resume Script.answer (.waiting call next) w').2
        (step.gains w'.remote.listed (Suspended.resume Script.answer (.waiting call next) w').1)

/-- The gains of a step that ended at its start. -/
def Step.gainsAtOnce (step : Step) : Suspended Value → List Value
  | .ended o => step.gains [] o
  | .waiting _ _ => []

/-- The start of a step: its immediate gains are known, and the others remain. -/
structure Step.Starts (step : Step) (w : ScriptedWorld) (r : Suspended Value × ScriptedWorld) :
    Prop where
  owes : Owes step r.2 r.1
  known : ∀ v, v ∈ r.2.registry.known.names ↔
    v ∈ w.registry.known.names ∨ v ∈ step.gainsAtOnce r.1

theorem Gained.nothing {w w' : ScriptedWorld} (hcatalog : w'.remote.catalog = w.remote.catalog)
    (herror : w'.remote.catalogError = w.remote.catalogError)
    (hregistry : w'.registry = w.registry) : Gained w w' [] :=
  ⟨hcatalog, herror, fun v => by simp [hregistry]⟩

theorem Gained.learned {w w' : ScriptedWorld} {names : List Value}
    (hcatalog : w'.remote.catalog = w.remote.catalog)
    (herror : w'.remote.catalogError = w.remote.catalogError)
    (hknown : w'.registry.known = w.registry.known.insertAll names)
    (htexts : ∀ name ∈ names, name.isText = true) : Gained w w' names :=
  ⟨hcatalog, herror, fun v => by rw [hknown, TableSet.mem_insertAll_texts_iff htexts]⟩

theorem Step.starts_of_failure (step : Step) (f : Failure) {w w' : ScriptedWorld}
    (h : w'.registry = w.registry) : step.Starts w (.ended (.error f), w') := by
  refine ⟨fun listed v hv => ?_, fun v => ?_⟩
  · simp [Step.gains] at hv
  · simp [h, Step.gainsAtOnce, Step.gains]

/-- The start of a step that ends with known gains. -/
theorem Step.starts_of_ended {step : Step} {a : Value} {names : List Value}
    (hgains : ∀ listed, step.gains listed (.ok a) = names) {w w' : ScriptedWorld}
    (hknown : ∀ v, v ∈ w'.registry.known.names ↔ v ∈ w.registry.known.names ∨ v ∈ names) :
    step.Starts w (.ended (.ok a), w') := by
  refine ⟨fun listed v hv => ?_, fun v => ?_⟩
  · rw [hgains] at hv
    exact (hknown v).mpr (Or.inr hv)
  · change _ ↔ _ ∨ v ∈ step.gains [] (.ok a)
    rw [hgains, hknown]

/-- A table is known after its provisioning has succeeded. -/
theorem owes_of_provision {step : Step} {table : String}
    (hgains : ∀ listed v, step.gains listed (.ok v) = [.text table]) (call : Call)
    (e : Log.Entry) (a : Value) (w : ScriptedWorld) :
    Owes step w (.waiting call fun _ => .note e (.learn [.text table] (.done a))) := by
  intro w' _
  have hcatalog := Script.catalog_answer call w'.remote
  simp only [Suspended.resume]
  cases hanswer : Script.answer call w'.remote with
  | mk o remote =>
    rw [hanswer] at hcatalog
    cases o with
    | error f => exact Gained.nothing hcatalog.1 hcatalog.2 rfl
    | ok r =>
      change Gained w' _ (step.gains _ (.ok a))
      rw [hgains]
      exact Gained.learned hcatalog.1 hcatalog.2 rfl (by simp [Value.isText])

/-- A successful step that ensures a table gains the table. -/
theorem Step.starts_of_ensure {step : Step} {table : String}
    (hgains : ∀ listed v, step.gains listed (.ok v) = [.text table])
    (ddl : Validation.Checked String) (w : ScriptedWorld) :
    step.Starts w ((ensure ddl table >>= fun _ => pure Value.null).start w) := by
  rw [ensure_eq]
  change step.Starts w (Task.start (Task.bind _ _) w)
  simp only [Task.bind, Task.start]
  by_cases hknown : w.registry.known.contains (.text table) = true
  · simp only [hknown, if_true]
    have hmem : .text table ∈ w.registry.known.names := TableSet.contains_text_iff.mp hknown
    refine Step.starts_of_ended (fun listed => hgains listed .null) fun v => ?_
    rw [List.mem_singleton]
    constructor
    · exact Or.inl
    · rintro (hv | rfl)
      · exact hv
      · exact hmem
  · simp only [if_neg hknown]
    by_cases hauto : w.registry.autocreate = true
    · simp only [hauto, if_true, provision]
      cases ofChecked ddl with
      | error f => exact step.starts_of_failure f rfl
      | ok sql =>
        refine ⟨owes_of_provision hgains ⟨sql, []⟩ _ .null _, fun v => ?_⟩
        change v ∈ w.registry.known.names ↔ v ∈ w.registry.known.names ∨ v ∈ []
        simp
    · simp only [if_neg hauto]
      exact step.starts_of_failure _ rfl

/-- A successful reading gains the names of the catalog. -/
theorem owes_of_seed (w : ScriptedWorld) :
    Owes (.ask .seed) w (.waiting ⟨catalogSql, []⟩ fun result =>
      (learnNames result.tableNames).bind fun count => .done (.int count)) := by
  intro w' htexts
  simp only [Suspended.resume, Script.answer_catalog]
  have hlisted := Script.isText_of_mem_listed htexts
  unfold Script.listed at hlisted
  cases hread : w'.remote.catalogResult catalogSql with
  | error f => exact Gained.nothing rfl rfl rfl
  | ok r =>
    simp only [hread] at hlisted
    have hcomplete : learnable r.tableNames = (r.tableNames, true) := learnable_of_texts hlisted
    simp only [learnNames, hcomplete, if_true, Task.bind, Task.run]
    change Gained w' _ w'.remote.listed
    unfold Script.listed
    rw [hread]
    exact Gained.learned rfl rfl rfl hlisted

theorem Step.starts (step : Step) (w : ScriptedWorld) : step.Starts w (step.start w) := by
  cases step with
  | ask request =>
    cases request with
    | ensureTable idAttribute properties table validate =>
      have hgains : ∀ listed v, Step.gains listed
          (.ask (.ensureTable idAttribute properties table validate)) (.ok v) = [.text table] :=
        fun _ _ => rfl
      cases validate with
      | true =>
        cases hread : Schema.readEach Schema.Field.read properties with
        | error issues =>
          simp only [Step.start, Request.task, hread]
          exact Step.starts_of_failure _ _ rfl
        | ok fields =>
          simp only [Step.start, Request.task, hread]
          exact Step.starts_of_ensure hgains _ w
      | false => exact Step.starts_of_ensure hgains _ w
    | ensureMapper mapper =>
      simp only [Step.start, Request.task]
      cases hread : Schema.Mapper.read mapper with
      | error issues => exact Step.starts_of_failure _ _ rfl
      | ok m =>
        have hgains : ∀ listed v, Step.gains listed (.ask (.ensureMapper mapper)) (.ok v) =
            [.text m.tableName] := by
          intro listed v
          simp [Step.gains, hread]
        exact Step.starts_of_ensure hgains _ w
    | seed =>
      refine ⟨?_, fun v => ?_⟩
      · simp only [Step.start, Request.task, seed_eq]
        exact owes_of_seed _
      · simp only [Step.start, Request.task, seed_eq]
        change v ∈ w.registry.known.names ↔ v ∈ w.registry.known.names ∨ v ∈ []
        simp
    | add table =>
      refine Step.starts_of_ended (fun listed => rfl) fun v => ?_
      change v ∈ (w.registry.known.insert (.text table)).names ↔ _
      rw [TableSet.mem_insert_text_iff, List.mem_singleton]
    | contains table => exact Step.starts_of_ended (fun listed => rfl) fun v => by simp
  | setAutocreate value => exact Step.starts_of_ended (fun listed => rfl) fun v => by simp
  | setCatalog catalog error => exact Step.starts_of_ended (fun listed => rfl) fun v => by simp

theorem Step.textNamed_start {step : Step} {w : ScriptedWorld}
    (h : Script.TextNamed w.remote.catalog)
    (hset : ∀ catalog error, step = .setCatalog catalog error → Script.TextNamed catalog) :
    Script.TextNamed (step.start w).2.remote.catalog := by
  cases step with
  | ask request =>
    have hremote : (Step.start (.ask request) w).2.remote = w.remote :=
      Task.remote_start request.task w
    rwa [hremote]
  | setAutocreate value => exact h
  | setCatalog catalog error => exact hset catalog error rfl

theorem Owes.mono {step : Step} {s : Suspended Value} {w w' : ScriptedWorld}
    (h : Owes step w s)
    (hknown : ∀ v ∈ w.registry.known.names, v ∈ w'.registry.known.names) : Owes step w' s := by
  cases s with
  | ended o => exact fun listed v hv => hknown v (h listed v hv)
  | waiting call next => exact h

/-- A resumed step gains its remaining names. -/
theorem Owes.resume {step : Step} {s : Suspended Value} {w : ScriptedWorld} (h : Owes step w s)
    (htexts : Script.TextNamed w.remote.catalog) :
    Gained w (s.resume Script.answer w).2
      (step.gains w.remote.listed (s.resume Script.answer w).1) := by
  cases s with
  | waiting call next => exact h w htexts
  | ended o =>
    refine ⟨rfl, rfl, fun v => ?_⟩
    constructor
    · exact Or.inl
    · rintro (hv | hv)
      · exact hv
      · exact h w.remote.listed v hv

theorem startAll_known (steps : List Step) (w : ScriptedWorld) (v : Value) :
    v ∈ (startAll steps w).2.registry.known.names ↔ v ∈ w.registry.known.names ∨
      ∃ p ∈ steps.zip (startAll steps w).1, v ∈ p.1.gainsAtOnce p.2 := by
  induction steps generalizing w with
  | nil => simp [startAll]
  | cons step rest ih =>
    simp only [startAll, List.zip_cons_cons, List.mem_cons, exists_eq_or_imp]
    rw [ih, (step.starts w).known, or_assoc]

theorem startAll_owes (steps : List Step) (w : ScriptedWorld) :
    List.Forall₂ (fun step s => Owes step (startAll steps w).2 s) steps
      (startAll steps w).1 := by
  induction steps generalizing w with
  | nil => exact .nil
  | cons step rest ih =>
    refine .cons ((step.starts w).owes.mono fun v hv => ?_) (ih (step.start w).2)
    exact (startAll_known rest (step.start w).2 v).mpr (Or.inl hv)

theorem startAll_textNamed {steps : List Step} {w : ScriptedWorld}
    (h : Script.TextNamed w.remote.catalog)
    (hset : ∀ step ∈ steps, ∀ catalog error, step = .setCatalog catalog error →
      Script.TextNamed catalog) :
    Script.TextNamed (startAll steps w).2.remote.catalog := by
  induction steps generalizing w with
  | nil => exact h
  | cons step rest ih =>
    exact ih (step.textNamed_start h (hset step List.mem_cons_self)) fun other hother =>
      hset other (List.mem_cons_of_mem step hother)

/-- The gains of steps with their outcomes. -/
def gainsOf (listed : List Value) (steps : List Step) (os : List (Outcome Value)) : List Value :=
  (steps.zip os).flatMap fun p => p.1.gains listed p.2

/-- Resumed steps gain their remaining names, one after another. -/
theorem resumeAll_gained {steps : List Step} {ss : List (Suspended Value)} {w : ScriptedWorld}
    (h : List.Forall₂ (fun step s => Owes step w s) steps ss)
    (htexts : Script.TextNamed w.remote.catalog) :
    Gained w (resumeAll ss w).2 (gainsOf w.remote.listed steps (resumeAll ss w).1) := by
  induction ss generalizing steps w with
  | nil =>
    cases h
    exact Gained.nothing rfl rfl rfl
  | cons s rest ih =>
    cases h with
    | @cons step _ steps _ hstep hrest =>
      have hfirst := hstep.resume htexts
      have hlisted : (s.resume Script.answer w).2.remote.listed = w.remote.listed :=
        Script.listed_eq hfirst.catalog hfirst.catalogError
      have howes : List.Forall₂ (fun step s' => Owes step (s.resume Script.answer w).2 s')
          steps rest :=
        hrest.imp fun _ _ howed => howed.mono fun v hv => (hfirst.known v).mpr (Or.inl hv)
      have hlater := ih howes (by rwa [hfirst.catalog])
      rw [hlisted] at hlater
      exact hfirst.trans hlater

/-- The gains of a step without a reading do not depend on the catalog. -/
theorem mem_gains_of_unread {step : Step} {o : Outcome Value} {v : Value}
    (h : v ∈ step.gains [] o) (listed : List Value) : v ∈ step.gains listed o := by
  cases o with
  | error f => simp [Step.gains] at h
  | ok a =>
    cases step with
    | ask request =>
      cases request with
      | seed => simp [Step.gains] at h
      | _ => exact h
    | _ => exact h

/-- The immediate gains of a step are among the gains of its outcome. -/
theorem mem_gainsOf_of_atOnce {steps : List Step} {ss : List (Suspended Value)}
    (listed : List Value) (w : ScriptedWorld) {p : Step × Suspended Value}
    (hp : p ∈ steps.zip ss) {v : Value} (hv : v ∈ p.1.gainsAtOnce p.2) :
    v ∈ gainsOf listed steps (resumeAll ss w).1 := by
  induction ss generalizing steps w with
  | nil => simp at hp
  | cons s rest ih =>
    cases steps with
    | nil => simp at hp
    | cons step steps =>
      rw [List.zip_cons_cons, List.mem_cons] at hp
      simp only [gainsOf, resumeAll, List.zip_cons_cons, List.flatMap_cons, List.mem_append]
      rcases hp with rfl | hp
      · cases s with
        | waiting call next => simp [Step.gainsAtOnce] at hv
        | ended o => exact Or.inl (mem_gains_of_unread hv listed)
      · exact Or.inr (ih _ hp)

/-- Gathered steps gain the names that each of them gains. -/
theorem gather_known {steps : List Step} {w : ScriptedWorld}
    (htexts : Script.TextNamed w.remote.catalog)
    (hset : ∀ step ∈ steps, ∀ catalog error, step = .setCatalog catalog error →
      Script.TextNamed catalog) (v : Value) :
    v ∈ (gather steps w).2.registry.known.names ↔ v ∈ w.registry.known.names ∨
      v ∈ gainsOf (gather steps w).2.remote.listed steps (gather steps w).1 := by
  have hstarted := startAll_textNamed htexts hset
  have hgained := resumeAll_gained (startAll_owes steps w) hstarted
  have hlisted := Script.listed_eq hgained.catalog hgained.catalogError
  change v ∈ (resumeAll (startAll steps w).1 (startAll steps w).2).2.registry.known.names ↔ _ ∨
    v ∈ gainsOf (resumeAll (startAll steps w).1 (startAll steps w).2).2.remote.listed steps
      (resumeAll (startAll steps w).1 (startAll steps w).2).1
  rw [hlisted, hgained.known, startAll_known]
  constructor
  · rintro ((hv | ⟨p, hp, hv⟩) | hv)
    · exact Or.inl hv
    · exact Or.inr (mem_gainsOf_of_atOnce _ _ hp hv)
    · exact Or.inr hv
  · rintro (hv | hv)
    · exact Or.inl (Or.inl hv)
    · exact Or.inr hv

/-- The steps of an action. -/
def Action.steps : Action → List Step
  | .alone step => [step]
  | .together steps => steps

def Answer.outcomes : Answer → List (Outcome Value)
  | .one o => [o]
  | .many os => os

/-- The names that an action adds to the known tables, by its answer and the catalog after it. A
catalog is set while steps start and read when they are resumed, so the readings of the action read
that catalog. -/
def Action.gains (action : Action) (r : Answer × ScriptedWorld) : List Value :=
  gainsOf r.2.remote.listed action.steps r.1.outcomes

theorem Action.run_eq_gather (action : Action) (w : ScriptedWorld) :
    (action.run w).1.outcomes = (gather action.steps w).1 ∧
      (action.run w).2 = (gather action.steps w).2 := by
  cases action <;> exact ⟨rfl, rfl⟩

theorem Action.run_known {action : Action} {w : ScriptedWorld}
    (htexts : Script.TextNamed w.remote.catalog)
    (hset : ∀ step ∈ action.steps, ∀ catalog error, step = .setCatalog catalog error →
      Script.TextNamed catalog) (v : Value) :
    v ∈ (action.run w).2.registry.known.names ↔
      v ∈ w.registry.known.names ∨ v ∈ action.gains (action.run w) := by
  obtain ⟨houtcomes, hworld⟩ := action.run_eq_gather w
  unfold Action.gains
  rw [houtcomes, hworld]
  exact gather_known htexts hset v

theorem Action.textNamed_run {action : Action} {w : ScriptedWorld}
    (htexts : Script.TextNamed w.remote.catalog)
    (hset : ∀ step ∈ action.steps, ∀ catalog error, step = .setCatalog catalog error →
      Script.TextNamed catalog) :
    Script.TextNamed (action.run w).2.remote.catalog := by
  have hstarted := startAll_textNamed htexts hset
  have hgained := resumeAll_gained (startAll_owes action.steps w) hstarted
  rw [(action.run_eq_gather w).2]
  change Script.TextNamed
    (resumeAll (startAll action.steps w).1 (startAll action.steps w).2).2.remote.catalog
  rwa [hgained.catalog]

/-- The gains of the action at a place of a run. -/
def gainsAt (actions : List (Action × List Reply)) (w : ScriptedWorld) (i : Nat) : List Value :=
  match actions[i]?, (runAll actions w)[i]? with
  | some (action, _), some r => action.gains r
  | _, _ => []

theorem length_runAll (actions : List (Action × List Reply)) (w : ScriptedWorld) :
    (runAll actions w).length = actions.length := by
  induction actions generalizing w with
  | nil => rfl
  | cons a rest ih => simp [runAll, ih]

/-- The known tables after an action are those of the start and the gains so far. -/
theorem runAll_known {actions : List (Action × List Reply)} {w : ScriptedWorld}
    (htexts : Script.TextNamed w.remote.catalog)
    (hset : ∀ a ∈ actions, ∀ step ∈ a.1.steps, ∀ catalog error,
      step = .setCatalog catalog error → Script.TextNamed catalog)
    {i : Nat} {r : Answer × ScriptedWorld} (hr : (runAll actions w)[i]? = some r) (v : Value) :
    v ∈ r.2.registry.known.names ↔
      v ∈ w.registry.known.names ∨ ∃ j ≤ i, v ∈ gainsAt actions w j := by
  induction actions generalizing w i with
  | nil => simp [runAll] at hr
  | cons a rest ih =>
    obtain ⟨action, replies⟩ := a
    have haction := hset _ List.mem_cons_self
    have hfirst := action.run_known (w := w.prepare replies) htexts haction v
    have hzero : gainsAt ((action, replies) :: rest) w 0 =
        action.gains (action.run (w.prepare replies)) := rfl
    cases i with
    | zero =>
      cases hr
      simp only [Nat.le_zero_eq, exists_eq_left, hzero]
      exact hfirst
    | succ i =>
      have hlater := ih (w := (action.run (w.prepare replies)).2)
        (action.textNamed_run htexts haction)
        (fun b hb => hset b (List.mem_cons_of_mem _ hb)) hr
      have hsucc : ∀ j, gainsAt ((action, replies) :: rest) w (j + 1) =
          gainsAt rest (action.run (w.prepare replies)).2 j := fun _ => rfl
      rw [hlater, hfirst, or_assoc]
      refine or_congr Iff.rfl ?_
      constructor
      · rintro (hv | ⟨j, hj, hv⟩)
        · exact ⟨0, Nat.zero_le _, hzero ▸ hv⟩
        · exact ⟨j + 1, Nat.succ_le_succ hj, hsucc j ▸ hv⟩
      · rintro ⟨j, hj, hv⟩
        cases j with
        | zero => exact Or.inl (hzero ▸ hv)
        | succ j => exact Or.inr ⟨j, Nat.le_of_succ_le_succ hj, hsucc j ▸ hv⟩

/-- After every action, gathered or not, the known tables are exactly those that were known at the
start, were added, were ensured by a step with a null answer, or were listed for a successful
reading. So no table is removed, and a failed step adds none. -/
theorem known_iff_gained {actions : List (Action × List Reply)} {w : ScriptedWorld}
    (htexts : Script.TextNamed w.remote.catalog)
    (hset : ∀ a ∈ actions, ∀ step ∈ a.1.steps, ∀ catalog error,
      step = .setCatalog catalog error → Script.TextNamed catalog) :
    (runAll actions w).length = actions.length ∧
      (∀ (i : Nat) (r : Answer × ScriptedWorld), (runAll actions w)[i]? = some r → ∀ v,
        v ∈ r.2.registry.known.names ↔
          v ∈ w.registry.known.names ∨ ∃ j ≤ i, v ∈ gainsAt actions w j) ∧
      ∀ (i j : Nat) (r r' : Answer × ScriptedWorld), i ≤ j →
        (runAll actions w)[i]? = some r → (runAll actions w)[j]? = some r' →
        ∀ v ∈ r.2.registry.known.names, v ∈ r'.2.registry.known.names := by
  refine ⟨length_runAll actions w, fun i r hr v => runAll_known htexts hset hr v, ?_⟩
  intro i j r r' hij hr hr' v hv
  rw [runAll_known htexts hset hr']
  rw [runAll_known htexts hset hr] at hv
  rcases hv with hv | ⟨k, hk, hv⟩
  · exact Or.inl hv
  · exact Or.inr ⟨k, hk.trans hij, hv⟩

def ensurePlain (table : String) : Step := .ask (.ensureTable "_id" [] table false)

/-- Two steps request one unknown table and the first of them fails, during a reading. Later the
catalog changes, provisioning is switched off, and the catalog is read again. -/
def contendedActions : List (Action × List Reply) :=
  [(.together [ensurePlain "posts", .ask .seed, ensurePlain "posts", .ask (.add "tags")],
      [.failure fun sql => .refused "busy" [] (some sql)]),
    (.alone (.setCatalog [.text "late"] none), []),
    (.alone (.setAutocreate (.bool false)), []),
    (.alone (ensurePlain "ghosts"), []),
    (.alone (.ask .seed), [])]

def contendedWorld : ScriptedWorld :=
  newWorld true [.text "users", .text "", .object [("name", .null)]] none

theorem known_iff_gained_contended :
    Script.TextNamed contendedWorld.remote.catalog ∧
      (∀ a ∈ contendedActions, ∀ step ∈ a.1.steps, ∀ catalog error,
        step = .setCatalog catalog error → Script.TextNamed catalog) ∧
      (∀ r, (runAll contendedActions contendedWorld)[4]? = some r → ∀ v,
        v ∈ r.2.registry.known.names ↔
          v ∈ contendedWorld.registry.known.names ∨
            ∃ j ≤ 4, v ∈ gainsAt contendedActions contendedWorld j) ∧
      (runAll contendedActions contendedWorld).map
          (fun r => r.2.registry.known.names.map Value.shown) =
        [["tags", "users", "posts"], ["tags", "users", "posts"], ["tags", "users", "posts"],
          ["tags", "users", "posts"], ["tags", "users", "posts", "late"]] := by
  have htexts : Script.TextNamed contendedWorld.remote.catalog := by
    intro row hrow fields hfields
    simp only [contendedWorld, newWorld, List.mem_cons, List.not_mem_nil, or_false] at hrow
    rcases hrow with rfl | rfl | rfl <;> cases hfields <;> decide
  have hset : ∀ a ∈ contendedActions, ∀ step ∈ a.1.steps, ∀ catalog error,
      step = .setCatalog catalog error → Script.TextNamed catalog := by
    intro a ha step hstep catalog error hsetCatalog
    subst hsetCatalog
    simp only [contendedActions, List.mem_cons, List.not_mem_nil, or_false] at ha
    rcases ha with rfl | rfl | rfl | rfl | rfl <;>
      simp only [Action.steps, ensurePlain, List.mem_cons, List.not_mem_nil, or_false,
        reduceCtorEq, Step.setCatalog.injEq] at hstep
    intro row hrow fields hfields
    rw [hstep.1, List.mem_singleton] at hrow
    subst hrow
    cases hfields
    exact fun _ => rfl
  exact ⟨htexts, hset, (known_iff_gained htexts hset).2.1 4, by decide +kernel⟩

end Registry

end SqlBridge
