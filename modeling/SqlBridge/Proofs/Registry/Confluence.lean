import Mathlib.Data.List.Nodup
import SqlBridge.Proofs.Registry.Knowledge
import SqlBridge.Proofs.Registry.Reading
import SqlBridge.Proofs.Sql.Verb

/-!
Confluence of provisioning. Steps that ensure tables, add names or read the catalog end with the
same known tables and the same answers, gathered or in sequence, in any order. A step that finds its
table unknown in its turn found it unknown at the start, too, so a gathering provisions every table
that a sequence provisions, possibly several times.
-/

namespace SqlBridge

/-- The calls of a task before its suspension. -/
def Suspended.sent {α : Type} : Suspended α → List Call
  | .ended _ => []
  | .waiting call _ => [call]

theorem Task.calls_start {σ α : Type} (t : Task α) (w : World σ) :
    (t.start w).2.calls = w.calls ++ (t.start w).1.sent := by
  induction t generalizing w with
  | done a => exact (List.append_nil _).symm
  | fail f => exact (List.append_nil _).symm
  | send call next => rfl
  | look next ih => exact ih w.registry w
  | learn names next ih => exact ih (w.learn names)
  | beginSeed next ih =>
    have hrest := ih w.beginSeed
    rwa [World.calls_beginSeed] at hrest
  | note e next ih => exact ih (w.note e)

namespace Registry

open Remote

/-- The provisioning statement of a request. -/
def creation (idAttribute : String) (properties : Fields Value) (table : String)
    (validate : Bool) : Validation.Checked String :=
  if validate then do
    let fields ← Schema.readEach Schema.Field.read properties
    Schema.createTable idAttribute fields table
  else Schema.createTableOfValues idAttribute properties table

theorem isProvisioning_creation {idAttribute table sql : String} {properties : Fields Value}
    {validate : Bool} (h : creation idAttribute properties table validate = .ok sql) :
    isProvisioning sql = true := by
  unfold creation at h
  cases validate with
  | false => exact Schema.isProvisioning_createTableWith h
  | true =>
    cases hread : Schema.readEach Schema.Field.read properties with
    | error issues =>
      simp only [hread] at h
      cases h
    | ok fields =>
      simp only [hread] at h
      exact Schema.isProvisioning_createTableWith h

/-- If the statement can be rendered, the task does not depend on how the declarations are
validated. -/
theorem task_ensureTable {idAttribute table sql : String} {properties : Fields Value}
    {validate : Bool} (h : creation idAttribute properties table validate = .ok sql) :
    (Request.ensureTable idAttribute properties table validate).task =
      ensure (.ok sql) table >>= fun _ => .done .null := by
  unfold creation at h
  cases validate with
  | false =>
    have hcreate : Schema.createTableOfValues idAttribute properties table = .ok sql := h
    change ensure (Schema.createTableOfValues idAttribute properties table) table >>= _ = _
    rw [hcreate]
    rfl
  | true =>
    cases hread : Schema.readEach Schema.Field.read properties with
    | error issues =>
      simp only [hread] at h
      cases h
    | ok fields =>
      simp only [hread] at h
      have hcreate : Schema.createTable idAttribute fields table = .ok sql := h
      simp only [Request.task, hread]
      change ensure (Schema.createTable idAttribute fields table) table >>= _ = _
      rw [hcreate]
      rfl

namespace Step

theorem calls_start (step : Step) (w : ScriptedWorld) :
    (step.start w).2.calls = w.calls ++ (step.start w).1.sent := by
  cases step with
  | ask request => exact Task.calls_start request.task w
  | _ => exact (List.append_nil _).symm

/-- Additions, readings, and requests for tables whose provisioning statement can be rendered. -/
inductive Provides : Step → Prop
  | ensure {idAttribute table sql : String} {properties : Fields Value} {validate : Bool}
    (h : creation idAttribute properties table validate = .ok sql) :
    Provides (.ask (.ensureTable idAttribute properties table validate))
  | seed : Provides (.ask .seed)
  | add (table : String) : Provides (.ask (.add table))

/-- The table requested by a step. -/
def table? : Step → Option String
  | .ask (.ensureTable _ _ table _) => some table
  | _ => none

/-- The answer of a step when the catalog lists `names`. -/
def reply (names : List Value) : Step → Value
  | .ask .seed => .int names.length
  | _ => .null

/-- The table of a step, if it is unknown. -/
def misses (known : TableSet) (step : Step) : List String :=
  step.table?.toList.filter fun table => !known.contains (.text table)

theorem mem_misses_iff {known : TableSet} {step : Step} {table : String} :
    table ∈ step.misses known ↔
      step.table? = some table ∧ known.contains (.text table) = false := by
  simp [misses, List.mem_filter, Option.mem_toList]

theorem nodup_misses (known : TableSet) (step : Step) : (step.misses known).Nodup := by
  refine List.Nodup.filter _ ?_
  cases step.table? <;> simp

/-- With more known tables there are fewer unknown ones. -/
theorem misses_sublist {known more : TableSet} (h : ∀ name ∈ known.names, name ∈ more.names)
    (step : Step) : (step.misses more).Sublist (step.misses known) := by
  refine List.monotone_filter_right _ fun table hmissed => ?_
  simp only [Bool.not_eq_true', ← Bool.not_eq_true, TableSet.contains_text_iff] at hmissed ⊢
  exact fun hknown => hmissed (h _ hknown)

theorem gains_of_table? {step : Step} {table : String} (h : step.table? = some table)
    (listed : List Value) : step.gains listed (.ok .null) = [.text table] := by
  cases step with
  | ask request =>
    cases request with
    | ensureTable idAttribute properties other validate =>
      cases h
      rfl
    | _ => cases h
  | _ => cases h

end Step

/-- A step with the tables of the provisioning statements among its calls. -/
def provisioned (x : Step × List Call) : List (Option String) :=
  (x.2.filter fun call => isProvisioning call.sql).map fun _ => x.1.table?

/-- A world with provisioning on and no failing answers, whose catalog lists `names`, all of them
texts. -/
structure Calm (names : List Value) (w : ScriptedWorld) : Prop where
  autocreate : w.registry.autocreate = true
  friendly : w.remote.Friendly
  texts : Script.TextNamed w.remote.catalog
  reads : ∃ r, w.remote.catalogResult catalogSql = .ok r ∧ r.tableNames = names

variable {names : List Value} {step : Step} {w w' : ScriptedWorld}

namespace Calm

theorem listed (h : Calm names w) : w.remote.listed = names := by
  obtain ⟨r, hr, hnames⟩ := h.reads
  unfold Script.listed
  rw [hr]
  exact hnames

theorem keep (h : Calm names w) (hauto : w'.registry.autocreate = w.registry.autocreate)
    (hremote : w'.remote = w.remote) : Calm names w' := by
  refine ⟨hauto.trans h.autocreate, ?_, ?_, ?_⟩
  · exact hremote ▸ h.friendly
  · exact hremote ▸ h.texts
  · exact hremote ▸ h.reads

theorem prepare (h : Calm names w) {replies : List Reply}
    (hplain : ∀ reply ∈ replies, reply.isFailure = false) : Calm names (w.prepare replies) :=
  ⟨h.autocreate, hplain, h.texts, h.reads⟩

end Calm

/-- A catalog of texts is read without failure. -/
theorem calm_of_texts {tables : List String} (hauto : w.registry.autocreate = true)
    (hfriendly : w.remote.Friendly) (hcatalog : w.remote.catalog = tables.map .text)
    (herror : w.remote.catalogError = none) :
    Calm ((tables.map Value.text).filter Value.truthy) w := by
  refine ⟨hauto, hfriendly, ?_, ⟨_, ?_, Script.tableNames_rowsOf _⟩⟩
  · intro row hrow fields hfields _
    rw [hcatalog] at hrow
    obtain ⟨table, -, rfl⟩ := List.mem_map.mp hrow
    cases hfields
    rfl
  · rw [← Script.catalogResult_rowsOf _ [], ← Script.catalogResult_texts tables w.remote.replies,
      ← hcatalog, ← herror]

/-- A started step that succeeds whenever it is resumed, without further calls. -/
def Promises (names : List Value) (step : Step) (s : Suspended Value) : Prop :=
  ∀ w, Calm names w → ∃ w', s.resume Script.answer w = (.ok (step.reply names), w') ∧
    w'.calls = w.calls ∧ Calm names w'

/-- The effect of starting a step: a promise, and the provisioning of its table if that is unknown.
-/
structure Step.Begins (names : List Value) (step : Step) (w : ScriptedWorld)
    (r : Suspended Value × ScriptedWorld) : Prop where
  calm : Calm names r.2
  promises : Promises names step r.1
  provisioned_eq : provisioned (step, r.1.sent) = (step.misses w.registry.known).map some

theorem promises_ended : Promises names step (.ended (.ok (step.reply names))) :=
  fun w hw => ⟨w, rfl, rfl, hw⟩

theorem begins_ensure {idAttribute table sql : String} {properties : Fields Value}
    {validate : Bool} (h : creation idAttribute properties table validate = .ok sql)
    (hw : Calm names w) :
    Step.Begins names (.ask (.ensureTable idAttribute properties table validate)) w
      (Step.start (.ask (.ensureTable idAttribute properties table validate)) w) := by
  have hprovisioning := isProvisioning_creation h
  simp only [Step.start, task_ensureTable h, ensure_eq]
  change Step.Begins _ _ w (Task.start (Task.bind _ _) w)
  simp only [Task.bind, Task.start]
  by_cases hknown : w.registry.known.contains (.text table) = true
  · simp only [hknown, if_true]
    refine ⟨hw, promises_ended, ?_⟩
    simp [provisioned, Step.misses, Step.table?, Suspended.sent, Task.bind, Task.start, hknown]
  · simp only [if_neg hknown, hw.autocreate, if_true]
    refine ⟨hw.keep rfl rfl, fun v hv => ?_, ?_⟩
    · -- Provisioning succeeds, and then the table is learned.
      have hanswer : Script.answer ⟨sql, []⟩ v.remote = (.ok QueryResult.empty, v.remote) :=
        Script.answer_provisioning hprovisioning hv.friendly
      simp only [provision, ofChecked, Task.bind, Task.start, Suspended.resume, hanswer]
      exact ⟨_, rfl, rfl, hv.keep rfl rfl⟩
    · simp [provisioned, Step.misses, Step.table?, provision, ofChecked, Task.bind, Task.start,
        Suspended.sent, hprovisioning, hknown]

theorem begins_seed (hw : Calm names w) :
    Step.Begins names (.ask .seed) w (Step.start (.ask .seed) w) := by
  have hstart : Step.start (.ask .seed) w = (.waiting ⟨catalogSql, []⟩ fun result =>
      (learnNames result.tableNames).bind fun count => .done (.int count),
      w.record ⟨catalogSql, []⟩) := by
    change (Task.bind seed _).start w = _
    rw [seed_eq]
    rfl
  rw [hstart]
  refine ⟨hw.keep rfl rfl, fun v hv => ?_, rfl⟩
  obtain ⟨r, hr, rfl⟩ := hv.reads
  have htexts := Script.isText_of_mem_listed hv.texts
  rw [hv.listed] at htexts
  simp only [Suspended.resume, Script.answer_catalog, hr, learnNames, learnable_of_texts htexts,
    if_true, Task.bind, Task.run]
  exact ⟨_, rfl, rfl, hv.keep rfl rfl⟩

theorem Step.Provides.begins (h : step.Provides) (hw : Calm names w) :
    Step.Begins names step w (step.start w) := by
  cases h with
  | ensure h => exact begins_ensure h hw
  | seed => exact begins_seed hw
  | add table => exact ⟨hw.keep rfl rfl, promises_ended, rfl⟩

/-- A single step succeeds, and all its calls are sent at its start. -/
theorem Step.Provides.run (h : step.Provides) (hw : Calm names w) :
    ∃ w', step.run w = (.ok (step.reply names), w') ∧
      w'.calls = w.calls ++ (step.start w).1.sent ∧ Calm names w' := by
  have hbegins := h.begins hw
  obtain ⟨w', hresume, hcalls, hcalm⟩ := hbegins.promises (step.start w).2 hbegins.calm
  exact ⟨w', hresume, hcalls.trans (step.calls_start w), hcalm⟩

/-- The names that a step gains at its start are among its gains. -/
theorem Step.Begins.gains_of_atOnce {r : Suspended Value × ScriptedWorld}
    (h : Step.Begins names step w r) {v : Value} (hv : v ∈ step.gainsAtOnce r.1) :
    v ∈ step.gains names (.ok .null) := by
  obtain ⟨s, after⟩ := r
  cases s with
  | waiting call next => simp [Step.gainsAtOnce] at hv
  | ended o =>
    obtain ⟨w', hresume, -, -⟩ := h.promises after h.calm
    have ho : o = .ok (step.reply names) := congrArg Prod.fst hresume
    rw [ho] at hv
    exact mem_gains_of_unread hv names

theorem startAll_promises {steps : List Step} (hsteps : ∀ step ∈ steps, step.Provides)
    (hw : Calm names w) :
    Calm names (startAll steps w).2 ∧
      List.Forall₂ (Promises names) steps (startAll steps w).1 ∧
      (startAll steps w).2.calls = w.calls ++ (startAll steps w).1.flatMap Suspended.sent := by
  induction steps generalizing w with
  | nil => exact ⟨hw, .nil, (List.append_nil _).symm⟩
  | cons step rest ih =>
    have hbegins := (hsteps step List.mem_cons_self).begins hw
    obtain ⟨hcalm, hpromises, hcalls⟩ :=
      ih (fun other hother => hsteps other (List.mem_cons_of_mem step hother)) hbegins.calm
    refine ⟨hcalm, .cons hbegins.promises hpromises, ?_⟩
    simp only [startAll, List.flatMap_cons]
    rw [hcalls, step.calls_start, List.append_assoc]

theorem resumeAll_promised {steps : List Step} {ss : List (Suspended Value)}
    (h : List.Forall₂ (Promises names) steps ss) (hw : Calm names w) :
    ∃ w', resumeAll ss w = (steps.map fun step => .ok (step.reply names), w') ∧
      w'.calls = w.calls ∧ Calm names w' := by
  induction h generalizing w with
  | nil => exact ⟨w, rfl, rfl, hw⟩
  | @cons step s steps ss hpromise _ ih =>
    obtain ⟨v, hresume, hcalls, hcalm⟩ := hpromise w hw
    obtain ⟨w', hrest, hmore, hcalm'⟩ := ih hcalm
    refine ⟨w', ?_, hmore.trans hcalls, hcalm'⟩
    simp only [resumeAll, hresume, hrest, List.map_cons]

/-- Gathered steps have the answers of single ones, and all their calls are sent at their starts. -/
theorem gather_eq {steps : List Step} (hsteps : ∀ step ∈ steps, step.Provides)
    (hw : Calm names w) :
    ∃ w', gather steps w = (steps.map fun step => .ok (step.reply names), w') ∧
      w'.calls = w.calls ++ (startAll steps w).1.flatMap Suspended.sent ∧ Calm names w' := by
  obtain ⟨hcalm, hpromises, hcalls⟩ := startAll_promises hsteps hw
  obtain ⟨w', hresume, hmore, hcalm'⟩ := resumeAll_promised hpromises hcalm
  exact ⟨w', hresume, hmore.trans hcalls, hcalm'⟩

/-- Steps of this kind do not set a catalog. -/
theorem textNamed_of_provides {steps : List Step} (hsteps : ∀ step ∈ steps, step.Provides) :
    ∀ step ∈ steps, ∀ catalog error, step = .setCatalog catalog error →
      Script.TextNamed catalog := by
  rintro step hstep catalog error rfl
  cases hsteps _ hstep

theorem mem_gainsOf_map {steps : List Step} {listed : List Value} {v : Value} :
    v ∈ gainsOf listed steps (steps.map fun step => .ok (step.reply names)) ↔
      ∃ step ∈ steps, v ∈ step.gains listed (.ok .null) := by
  induction steps with
  | nil => simp [gainsOf]
  | cons step rest ih =>
    have hfirst : step.gains listed (.ok (step.reply names)) = step.gains listed (.ok .null) := rfl
    unfold gainsOf at ih ⊢
    simp only [List.map_cons, List.zip_cons_cons, List.flatMap_cons, List.mem_append, ih, hfirst,
      List.mem_cons, exists_eq_or_imp]

theorem known_gather {steps : List Step} (hsteps : ∀ step ∈ steps, step.Provides)
    (hw : Calm names w) (v : Value) :
    v ∈ (gather steps w).2.registry.known.names ↔
      v ∈ w.registry.known.names ∨ ∃ step ∈ steps, v ∈ step.gains names (.ok .null) := by
  obtain ⟨w', hgather, -, hcalm⟩ := gather_eq hsteps hw
  have hknown := gather_known hw.texts (textNamed_of_provides hsteps) v
  rw [hgather] at hknown ⊢
  rw [hknown, hcalm.listed, mem_gainsOf_map]

/-- A single step is a gathering of one. -/
theorem known_run (hstep : step.Provides) (hw : Calm names w) (v : Value) :
    v ∈ (step.run w).2.registry.known.names ↔
      v ∈ w.registry.known.names ∨ v ∈ step.gains names (.ok .null) := by
  have hsteps : ∀ other ∈ [step], other.Provides := by simpa using hstep
  have hknown := known_gather hsteps hw v
  simp only [List.mem_singleton, exists_eq_left] at hknown
  exact hknown

/-- Steps in sequence, each with its replies. -/
def alone (p : List (Step × List Reply)) : List (Action × List Reply) :=
  p.map fun x => (.alone x.1, x.2)

/-- The world after a sequence of single steps. -/
def left (p : List (Step × List Reply)) (w : ScriptedWorld) : ScriptedWorld :=
  ((runAll (alone p) w).map Prod.snd).getLastD w

/-- The calls of each step of a sequence. -/
def sentAlone (p : List (Step × List Reply)) (w : ScriptedWorld) : List (Step × List Call) :=
  (p.map Prod.fst).zip ((runAll (alone p) w).map fun r => r.2.calls)

/-- The calls of each gathered step. -/
def sentTogether (steps : List Step) (w : ScriptedWorld) : List (Step × List Call) :=
  steps.zip ((startAll steps w).1.map Suspended.sent)

/-- Steps of this kind without failing replies. -/
def Smooth (p : List (Step × List Reply)) : Prop :=
  ∀ x ∈ p, x.1.Provides ∧ ∀ reply ∈ x.2, reply.isFailure = false

variable {p : List (Step × List Reply)}

theorem Smooth.tail {x : Step × List Reply} (h : Smooth (x :: p)) : Smooth p :=
  fun y hy => h y (List.mem_cons_of_mem x hy)

theorem left_cons (step : Step) (replies : List Reply) (w : ScriptedWorld) :
    left ((step, replies) :: p) w = left p (step.run (w.prepare replies)).2 := by
  unfold left
  exact List.getLastD_cons ..

theorem sentAlone_cons (step : Step) (replies : List Reply) (w : ScriptedWorld) :
    sentAlone ((step, replies) :: p) w =
      (step, (step.run (w.prepare replies)).2.calls) ::
        sentAlone p (step.run (w.prepare replies)).2 := rfl

theorem sentTogether_cons (step : Step) (rest : List Step) (w : ScriptedWorld) :
    sentTogether (step :: rest) w =
      (step, (step.start w).1.sent) :: sentTogether rest (step.start w).2 := rfl

/-- In a sequence every step succeeds, and the known tables are those before it with the gains of
the steps. -/
theorem runAll_alone (hp : Smooth p) (hw : Calm names w) :
    (runAll (alone p) w).map Prod.fst = p.map (fun x => .one (.ok (x.1.reply names))) ∧
      ∀ v, v ∈ (left p w).registry.known.names ↔
        v ∈ w.registry.known.names ∨ ∃ x ∈ p, v ∈ x.1.gains names (.ok .null) := by
  induction p generalizing w with
  | nil => exact ⟨rfl, fun v => by simp [left, alone, runAll]⟩
  | cons first rest ih =>
    obtain ⟨step, replies⟩ := first
    obtain ⟨hstep, hplain⟩ := hp _ List.mem_cons_self
    have hprepared := hw.prepare hplain
    obtain ⟨w', hrun, -, hcalm⟩ := hstep.run hprepared
    have hknown := known_run hstep hprepared
    obtain ⟨hanswers, hlater⟩ := ih hp.tail hcalm
    constructor
    · simp only [alone, List.map_cons, runAll, Action.run, hrun]
      exact congrArg (_ :: ·) hanswers
    · intro v
      rw [hrun] at hknown
      rw [left_cons, hrun, hlater, hknown]
      simp only [List.mem_cons, exists_eq_or_imp, or_assoc]
      rfl

theorem provisioned_run (hstep : step.Provides) {replies : List Reply}
    (hplain : ∀ reply ∈ replies, reply.isFailure = false) (hw : Calm names w) :
    provisioned (step, (step.run (w.prepare replies)).2.calls) =
      (step.misses w.registry.known).map some := by
  obtain ⟨w', hrun, hcalls, -⟩ := hstep.run (hw.prepare hplain)
  rw [hrun, hcalls]
  exact (hstep.begins (hw.prepare hplain)).provisioned_eq

/-- In a sequence no table is provisioned that is known or was provisioned before. -/
theorem provisioned_alone (hp : Smooth p) (hw : Calm names w) :
    ∃ tables : List String, (sentAlone p w).flatMap provisioned = tables.map some ∧
      tables.Nodup ∧ ∀ table ∈ tables, w.registry.known.contains (.text table) = false := by
  induction p generalizing w with
  | nil => exact ⟨[], rfl, List.nodup_nil, by simp⟩
  | cons first rest ih =>
    obtain ⟨step, replies⟩ := first
    obtain ⟨hstep, hplain⟩ := hp _ List.mem_cons_self
    have hprepared := hw.prepare hplain
    have hfirst := provisioned_run hstep hplain hw
    have hknown := known_run hstep hprepared
    obtain ⟨w', hrun, -, hcalm⟩ := hstep.run hprepared
    rw [hrun] at hknown
    obtain ⟨tables, htables, hnodup, hunknown⟩ := ih hp.tail hcalm
    rw [sentAlone_cons, List.flatMap_cons, hfirst, hrun, htables]
    refine ⟨step.misses w.registry.known ++ tables, (List.map_append ..).symm, ?_, ?_⟩
    · refine (step.nodup_misses _).append hnodup fun table hmissed hlater => ?_
      -- The table is known after its step, so no later step misses it.
      have htable := (Step.mem_misses_iff.mp hmissed).1
      have hlearned : (Value.text table) ∈ w'.registry.known.names := by
        rw [hknown, Step.gains_of_table? htable]
        exact Or.inr (List.mem_singleton.mpr rfl)
      have hstill := hunknown table hlater
      rw [TableSet.contains_text_iff.mpr hlearned] at hstill
      cases hstill
    · intro table htable
      rcases List.mem_append.mp htable with hmissed | hlater
      · exact (Step.mem_misses_iff.mp hmissed).2
      · have hstill := hunknown table hlater
        rw [← Bool.not_eq_true, TableSet.contains_text_iff] at hstill ⊢
        exact fun hbefore => hstill ((hknown _).mpr (Or.inl hbefore))

/-- A step that finds its table unknown in a sequence found it unknown at its start. -/
theorem provisioned_sublist {v : ScriptedWorld} (hp : Smooth p) (hw : Calm names w)
    (hv : Calm names v)
    (hknown : ∀ name ∈ v.registry.known.names, name ∈ w.registry.known.names) :
    ((sentAlone p w).flatMap provisioned).Sublist
      ((sentTogether (p.map Prod.fst) v).flatMap provisioned) := by
  -- By induction on the steps: the tables known in the sequence include those known at the starts,
  -- because a suspended step has not gained any.
  induction p generalizing w v with
  | nil => exact .refl _
  | cons first rest ih =>
    obtain ⟨step, replies⟩ := first
    obtain ⟨hstep, hplain⟩ := hp _ List.mem_cons_self
    have hprepared := hw.prepare hplain
    have hfirst := provisioned_run hstep hplain hw
    have hlearned := known_run hstep hprepared
    obtain ⟨w', hrun, -, hcalm⟩ := hstep.run hprepared
    rw [hrun] at hlearned
    have hbegins := hstep.begins hv
    have hstarted := (step.starts v).known
    rw [sentAlone_cons, List.map_cons, sentTogether_cons, List.flatMap_cons, List.flatMap_cons,
      hfirst, hbegins.provisioned_eq, hrun]
    refine ((step.misses_sublist hknown).map some).append (ih hp.tail hcalm hbegins.calm ?_)
    intro name hname
    rw [hlearned]
    rcases (hstarted name).mp hname with hbefore | hgained
    · exact Or.inl (hknown name hbefore)
    · exact Or.inr (hbegins.gains_of_atOnce hgained)

theorem length_provisioned {steps : List Step} (hsteps : ∀ step ∈ steps, step.Provides)
    (hw : Calm names w) : ∀ x ∈ sentTogether steps w, (provisioned x).length ≤ 1 := by
  induction steps generalizing w with
  | nil => simp [sentTogether]
  | cons step rest ih =>
    have hbegins := (hsteps step List.mem_cons_self).begins hw
    rw [sentTogether_cons]
    intro x hx
    rcases List.mem_cons.mp hx with rfl | hx
    · rw [hbegins.provisioned_eq, List.length_map]
      refine (List.length_filter_le _ _).trans ?_
      cases step.table? <;> simp
    · exact ih (fun other hother => hsteps other (List.mem_cons_of_mem step hother))
        hbegins.calm x hx

theorem flatMap_sentTogether (steps : List Step) (w : ScriptedWorld) :
    (sentTogether steps w).flatMap Prod.snd = (startAll steps w).1.flatMap Suspended.sent := by
  induction steps generalizing w with
  | nil => rfl
  | cons step rest ih => exact congrArg (_ ++ ·) (ih (step.start w).2)

/-- Provisioning is confluent. Gathered steps have the answers of the same steps in sequence, in any
order, which are null or the number of names of a reading, and end with the same known tables. In
sequence they provision no table twice. Each gathered step provisions at most one table, and
gathered they provision every table that they provision in the given sequence. -/
theorem provisioning_confluent {steps : List Step} (hsteps : ∀ step ∈ steps, step.Provides)
    {names : List Value} {w : ScriptedWorld} (hw : Calm names w) :
    (gather steps w).1 = steps.map (fun step => .ok (step.reply names)) ∧
      (gather steps w).2.calls = w.calls ++ (sentTogether steps w).flatMap Prod.snd ∧
      (∀ x ∈ sentTogether steps w, (provisioned x).length ≤ 1) ∧
      ∀ p : List (Step × List Reply), (p.map Prod.fst).Perm steps →
        (∀ x ∈ p, ∀ reply ∈ x.2, reply.isFailure = false) →
        (runAll (alone p) w).map Prod.fst = p.map (fun x => .one (.ok (x.1.reply names))) ∧
        (∀ v, v ∈ (left p w).registry.known.names ↔
          v ∈ (gather steps w).2.registry.known.names) ∧
        (∃ tables : List String, (sentAlone p w).flatMap provisioned = tables.map some ∧
          tables.Nodup) ∧
        (p.map Prod.fst = steps → ((sentAlone p w).flatMap provisioned).Sublist
          ((sentTogether steps w).flatMap provisioned)) := by
  obtain ⟨w', hgather, hcalls, -⟩ := gather_eq hsteps hw
  refine ⟨congrArg Prod.fst hgather, ?_, length_provisioned hsteps hw, fun p hperm hplain => ?_⟩
  · rw [hgather, flatMap_sentTogether]
    exact hcalls
  · have hp : Smooth p := fun x hx =>
      ⟨hsteps _ (hperm.mem_iff.mp (List.mem_map_of_mem hx)), hplain x hx⟩
    obtain ⟨hanswers, hknown⟩ := runAll_alone hp hw
    obtain ⟨tables, htables, hnodup, -⟩ := provisioned_alone hp hw
    refine ⟨hanswers, fun v => ?_, ⟨tables, htables, hnodup⟩, ?_⟩
    · rw [hknown, known_gather hsteps hw]
      refine or_congr Iff.rfl ?_
      constructor
      · rintro ⟨x, hx, hv⟩
        exact ⟨x.1, hperm.mem_iff.mp (List.mem_map_of_mem hx), hv⟩
      · rintro ⟨step, hstep, hv⟩
        obtain ⟨x, hx, rfl⟩ := List.mem_map.mp (hperm.mem_iff.mpr hstep)
        exact ⟨x, hx, hv⟩
    · rintro rfl
      exact provisioned_sublist hp hw hw fun name hname => hname

/-- Two requests for one table under different declarations, during a reading that lists another
table. -/
def overlapping : List Step :=
  [.ask (.ensureTable "_id" [("title", .object [("type", .text "string")])] "posts" true),
    .ask .seed, .ask (.ensureTable "id" [] "posts" false), .ask (.add "tags"),
    .ask (.ensureTable "_id" [] "users" false)]

def overlappingWorld : ScriptedWorld := newWorld true [.text "users", .text ""] none

theorem provisioning_confluent_overlapping :
    (∀ step ∈ overlapping, step.Provides) ∧ Calm [.text "users"] overlappingWorld ∧
      (gather overlapping overlappingWorld).1 =
        [.ok .null, .ok (.int 1), .ok .null, .ok .null, .ok .null] ∧
      (sentTogether overlapping overlappingWorld).flatMap provisioned =
        [some "posts", some "posts", some "users"] ∧
      (sentAlone (overlapping.map fun step => (step, [])) overlappingWorld).flatMap provisioned =
        [some "posts"] ∧
      ∀ v, v ∈ (left (overlapping.reverse.map fun step => (step, []))
            overlappingWorld).registry.known.names ↔
          v ∈ (gather overlapping overlappingWorld).2.registry.known.names := by
  have hsteps : ∀ step ∈ overlapping, step.Provides := by
    simp only [overlapping, List.forall_mem_cons]
    exact ⟨.ensure rfl, .seed, .ensure rfl, .add _, .ensure rfl, by simp⟩
  have hcatalog : overlappingWorld.remote.catalog = ["users", ""].map .text := rfl
  have hcalm : Calm [.text "users"] overlappingWorld :=
    calm_of_texts rfl (by simp [Script.Friendly, overlappingWorld, newWorld]) hcatalog rfl
  have hconfluent := provisioning_confluent hsteps hcalm
  have hreversed := hconfluent.2.2.2 (overlapping.reverse.map fun step => (step, []))
    (by simp [Function.comp_def]) (by simp)
  exact ⟨hsteps, hcalm, hconfluent.1, by decide +kernel, by decide +kernel, hreversed.2.1⟩

end Registry

end SqlBridge
