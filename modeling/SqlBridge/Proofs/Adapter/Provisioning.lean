import SqlBridge.Proofs.Adapter.Course
import SqlBridge.Proofs.Adapter.Event
import SqlBridge.Proofs.Adapter.Setting

/-!
Provisioning over a session. Every call of a session is a reading of the catalog, the provisioning
of a table or a data statement on one. A data statement is sent only while its table is known and a
table is provisioned only while it is unknown, so a table is not provisioned again after that has
succeeded or after a reading has listed it.
-/

namespace SqlBridge.Adapter

open Sql Remote

def operationEvents (dbg : Bool) (source : MapperSource) (o : Operation) (w : ScriptedWorld) :
    List Event :=
  match source.resolve with
  | .ok m => ((o.task dbg source).history Script.answer w).map (Event.ofTable m.tableName)
  | .error _ => []

def turnEvents (w : ScriptedWorld) : List Event :=
  match w.seed with
  | .pending => (Registry.seed.history Script.answer w).map (Event.mk .catalog)
  | _ => []

/-- The calls of a step with their answers. -/
def Step.events (step : Step) (s : ScriptedSession) : List Event :=
  match step with
  | .operate mapper readFirst operation _ =>
    match mapperSource mapper readFirst with
    | .ok source => operationEvents s.options.debug source operation s.world
    | .error _ => []
  | .yield => turnEvents s.world
  | .waitSeeded => turnEvents s.world.beginSeed
  | .enter => []
  | .close => []
  | .change _ => []

/-- The calls of every step of a run. -/
def eventsOf : List (Step × List Remote.Reply) → ScriptedSession → List (List Event)
  | [], _ => []
  | (step, replies) :: rest, s =>
    let s := { s with world := s.world.prepare replies }
    step.events s :: eventsOf rest (step.run scripted s).2

theorem grows_withTable (registry : Registry) (m : Schema.Mapper) :
    Grows registry (withTable registry m) := by
  intro table h
  exact TableSet.contains_text_iff.mpr
    (TableSet.mem_insert_of_mem (TableSet.contains_text_iff.mp h) _)

theorem knows_withTable (registry : Registry) (m : Schema.Mapper) :
    knows (withTable registry m) m.tableName = true :=
  TableSet.contains_text_iff.mpr (TableSet.mem_insert_text_iff.mpr (Or.inr rfl))

theorem grows_insertAll {registry registry' : Registry} {names : List Value}
    (h : registry'.known = registry.known.insertAll names) : Grows registry registry' := by
  intro table hknown
  unfold knows at hknown ⊢
  rw [h]
  exact TableSet.contains_insertAll_of_contains hknown names

theorem purpose_of_data {table : String} {e : Exchange}
    (h : isProvisioning e.call.sql = false) : (Event.ofTable table e).purpose = .data table := by
  simp [Event.ofTable, h]

theorem purpose_of_provisioning {table : String} {e : Exchange}
    (h : isProvisioning e.call.sql = true) :
    (Event.ofTable table e).purpose = .provision table := by
  simp [Event.ofTable, h]

/-- Statements on a known table. -/
theorem Follows.orderly {statements : List (Outcome Statement)} {registry : Registry}
    {finished : Prop} {es : List Exchange} (h : Follows statements registry finished es)
    {table : String} (hknown : knows registry table = true)
    (htable : ∀ s, .ok s ∈ statements → s.table = table) :
    Orderly registry (es.map (Event.ofTable table)) registry := by
  refine Orderly.of_forall ?_ ?_ ?_
  · intro event hevent
    obtain ⟨e, he, rfl⟩ := List.mem_map.mp hevent
    obtain ⟨s, f, hs, hrender, heq⟩ := Adapter.mem_writable (h.mem_writable he)
    unfold Event.Lawful
    rw [purpose_of_data (h.not_provisioning he)]
    refine ⟨?_, s, f, htable s hs, hrender, heq⟩
    have hregistry : (Event.ofTable table e).exchange.registry = registry := h.registry_eq e he
    rwa [hregistry]
  · intro event hevent
    obtain ⟨e, he, rfl⟩ := List.mem_map.mp hevent
    exact h.registry_eq e he
  · intro event hevent other
    obtain ⟨e, he, rfl⟩ := List.mem_map.mp hevent
    unfold Event.Settles
    rw [purpose_of_data (h.not_provisioning he)]
    exact fun h => h

/-- The provisioning statement of an unknown table is lawful when provisioning is on. -/
theorem lawful_provisioning {m : Schema.Mapper} {registry : Registry} {sql : String}
    (hsql : m.createTable = .ok sql) (hunknown : knows registry m.tableName = false)
    (hauto : registry.autocreate = true) (answer : Outcome QueryResult) :
    (Event.ofTable m.tableName ⟨⟨sql, []⟩, registry, answer⟩).Lawful := by
  unfold Event.Lawful
  rw [purpose_of_provisioning (Schema.Mapper.isProvisioning_createTable hsql)]
  exact ⟨hunknown, hauto, m, sql, rfl, hsql, rfl⟩

/-- Only a successful provisioning settles a table, and only its own. -/
theorem settles_provisioning {m : Schema.Mapper} {registry : Registry} {sql table : String}
    (hsql : m.createTable = .ok sql) {answer : Outcome QueryResult}
    (h : (Event.ofTable m.tableName ⟨⟨sql, []⟩, registry, answer⟩).Settles table) :
    m.tableName = table ∧ ∃ r, answer = .ok r := by
  unfold Event.Settles at h
  rw [purpose_of_provisioning (Schema.Mapper.isProvisioning_createTable hsql)] at h
  exact h

/-- The courses of an operation are orderly. -/
theorem Course.orderly {m : Schema.Mapper} {statements : List (Outcome Statement)}
    {before after : Registry} {finished : Prop} {es : List Exchange}
    (h : Course (.ok m) statements before finished es after)
    (htable : ∀ s, .ok s ∈ statements → s.table = m.tableName) :
    Orderly before (es.map (Event.ofTable m.tableName)) after := by
  cases h with
  | idle _ => exact .nil (.refl before)
  | known howner hknown h =>
    cases howner
    exact h.orderly hknown htable
  | refused howner hunknown hauto hsql f _ =>
    cases howner
    refine .cons (lawful_provisioning hsql hunknown hauto _) (.refl before) (.refl before) ?_
      (.nil (.refl before))
    intro table hsettles
    obtain ⟨-, r, hr⟩ := settles_provisioning hsql hsettles
    cases hr
  | provisioned howner hunknown hauto hsql r h =>
    cases howner
    refine .cons (lawful_provisioning hsql hunknown hauto _) (.refl before)
      (grows_withTable before m) ?_ (h.orderly (knows_withTable before m) htable)
    intro table hsettles
    obtain ⟨rfl, -⟩ := settles_provisioning hsql hsettles
    exact knows_withTable before m

/-- An operation whose mapper cannot be resolved has no calls. -/
theorem Course.idle_of_unreadable {f : Failure} {statements : List (Outcome Statement)}
    {before after : Registry} {finished : Prop} {es : List Exchange}
    (h : Course (.error f) statements before finished es after) : es = [] ∧ after = before := by
  cases h with
  | idle _ => exact ⟨rfl, rfl⟩
  | known howner _ _ => cases howner
  | refused howner _ _ _ _ _ => cases howner
  | provisioned howner _ _ _ _ _ => cases howner

/-- The world after a step: its calls are those of the events, which are orderly between the
registries. -/
structure Accounts (events : List Event) (w w' : ScriptedWorld) : Prop where
  calls_eq : w'.calls = w.calls ++ events.map (fun e => e.exchange.call)
  orderly : Orderly w.registry events w'.registry

theorem accounts_of_same {w w' : ScriptedWorld} (hcalls : w'.calls = w.calls)
    (hgrows : Grows w.registry w'.registry) : Accounts [] w w' :=
  ⟨hcalls.trans (List.append_nil w.calls).symm, .nil hgrows⟩

theorem accounts_operation (dbg : Bool) (source : MapperSource) (o : Operation)
    (w : ScriptedWorld) :
    Accounts (operationEvents dbg source o w) w ((o.task dbg source).run Script.answer w).2 := by
  have hcourse := course_task Script.answer dbg source o w
  have hcalls : ((o.task dbg source).run Script.answer w).2.calls =
      w.calls ++ ((o.task dbg source).history Script.answer w).map Exchange.call :=
    Task.calls_run (o.task dbg source) w
  unfold operationEvents
  cases hm : source.resolve with
  | error f =>
    rw [hm] at hcourse
    obtain ⟨hnone, hregistry⟩ := hcourse.idle_of_unreadable
    rw [hnone] at hcalls
    refine accounts_of_same (hcalls.trans (List.append_nil w.calls)) ?_
    rw [hregistry]
    exact .refl w.registry
  | ok m =>
    rw [hm] at hcourse
    refine ⟨?_, hcourse.orderly fun s hs => table_of_mem_statements hs⟩
    rw [hcalls, List.map_map]
    rfl

theorem accounts_seed (w : ScriptedWorld) :
    Accounts ((Registry.seed.history Script.answer w).map (Event.mk .catalog)) w
      (Registry.seed.run Script.answer w).2 := by
  have hknown := Registry.known_seed Script.answer w
  have hcalls : (Registry.seed.run Script.answer w).2.calls =
      w.calls ++ (Registry.seed.history Script.answer w).map Exchange.call :=
    Task.calls_run Registry.seed w
  rw [Registry.history_seed] at hcalls ⊢
  refine ⟨hcalls, ?_⟩
  cases hanswer : (Script.answer ⟨catalogSql, []⟩ w.remote).1 with
  | error f =>
    rw [hanswer] at hknown
    have hgrows : Grows w.registry (Registry.seed.run Script.answer w).2.registry := by
      intro table h
      unfold knows at h ⊢
      rwa [hknown]
    refine .cons rfl (.refl w.registry) hgrows ?_ (.nil (.refl _))
    rintro table ⟨r, hr, -⟩
    cases hr
  | ok r =>
    rw [hanswer] at hknown
    refine .cons rfl (.refl w.registry) (grows_insertAll hknown) ?_ (.nil (.refl _))
    rintro table ⟨r', hr', hlisted⟩
    cases hr'
    unfold knows
    rw [hknown]
    exact TableSet.contains_insertAll_of_mem hlisted

/-- The background reading accounts for its call; its end does not influence calls or registry. -/
theorem accounts_runSeed (w : ScriptedWorld) :
    Accounts ((Registry.seed.history Script.answer w).map (Event.mk .catalog)) w
      (runSeed Script.answer w) := by
  obtain ⟨log, hrun⟩ := exists_runSeed_eq Script.answer w
  have hseed := accounts_seed w
  rw [hrun]
  exact ⟨hseed.calls_eq, hseed.orderly⟩

theorem accounts_turn (w : ScriptedWorld) :
    Accounts (turnEvents w) w (turn Script.answer w) := by
  unfold turnEvents turn
  cases w.seed with
  | pending => exact accounts_runSeed w
  | _ => exact accounts_of_same rfl (.refl w.registry)

/-- Every step accounts for its calls. -/
theorem accounts_step (step : Step) (s : ScriptedSession) :
    Accounts (step.events s) s.world (step.run scripted s).2.world := by
  cases step with
  | operate mapper readFirst operation view =>
    simp only [Step.events, Step.run, scripted]
    cases mapperSource mapper readFirst with
    | error f => exact accounts_of_same rfl (.refl _)
    | ok source => exact accounts_operation s.options.debug source operation s.world
  | yield => exact accounts_turn s.world
  | waitSeeded =>
    have hturn := accounts_turn s.world.beginSeed
    rw [session_waitSeeded]
    refine ⟨?_, ?_⟩
    · have hcalls := hturn.calls_eq
      rwa [World.calls_beginSeed] at hcalls
    · have horderly := hturn.orderly
      rwa [World.registry_beginSeed] at horderly
  | enter =>
    refine accounts_of_same (World.calls_beginSeed s.world) ?_
    change Grows s.world.registry s.world.beginSeed.registry
    rw [World.registry_beginSeed]
    exact .refl _
  | close =>
    obtain ⟨seed, hclose⟩ := exists_requestClose_eq s.world
    simp only [Step.run, hclose]
    exact accounts_of_same rfl (.refl _)
  | change c => exact accounts_of_same rfl fun table h => h

/-- The calls of a run are those of its events. -/
theorem calls_runAll (steps : List (Step × List Remote.Reply)) (s : ScriptedSession) :
    (runAll scripted steps s).map (fun r => r.2.world.calls) =
      (eventsOf steps s).map fun es => es.map fun e => e.exchange.call := by
  induction steps generalizing s with
  | nil => rfl
  | cons first rest ih =>
    obtain ⟨step, replies⟩ := first
    have hstep := accounts_step step { s with world := s.world.prepare replies }
    simp only [runAll, eventsOf, List.map_cons, ih]
    refine congrArg (· :: _) ?_
    exact hstep.calls_eq

theorem orderly_eventsOf (steps : List (Step × List Remote.Reply)) (s : ScriptedSession) :
    ∃ registry, Orderly s.world.registry (eventsOf steps s).flatten registry := by
  induction steps generalizing s with
  | nil => exact ⟨s.world.registry, .nil (.refl _)⟩
  | cons first rest ih =>
    obtain ⟨step, replies⟩ := first
    let prepared : ScriptedSession := { s with world := s.world.prepare replies }
    have hstep := accounts_step step prepared
    obtain ⟨registry, hrest⟩ := ih (step.run scripted prepared).2
    exact ⟨registry, hstep.orderly.append hrest⟩

/-- In a run of any length the calls are those of its events. A data statement is sent while its
table is known, and a table is provisioned while it is unknown and provisioning is on. A table that
was known at the start, was provisioned or was listed by a reading is not provisioned afterwards. -/
theorem provisioned_before_use_and_once (steps : List (Step × List Remote.Reply))
    (s : ScriptedSession) :
    (runAll scripted steps s).map (fun r => r.2.world.calls) =
        (eventsOf steps s).map (fun es => es.map fun e => e.exchange.call) ∧
      (∀ e ∈ (eventsOf steps s).flatten, e.Lawful) ∧
      (∀ past e future, (eventsOf steps s).flatten = past ++ e :: future →
        ∀ table, e.Settles table → ∀ e' ∈ future, e'.purpose ≠ .provision table) ∧
      ∀ table, knows s.world.registry table = true →
        ∀ e ∈ (eventsOf steps s).flatten, e.purpose ≠ .provision table := by
  obtain ⟨registry, horderly⟩ := orderly_eventsOf steps s
  refine ⟨calls_runAll steps s, horderly.lawful, ?_, ?_⟩
  · intro past e future hevents table hsettles
    exact horderly.not_provision_of_settled hevents hsettles
  · intro table hknown
    exact horderly.not_provision_of_known hknown

/-- A provisioning fails, succeeds later, and is not repeated; another table is listed by a reading
before its first use. -/
def retriedSteps : List (Step × List Remote.Reply) :=
  [(.operate (.text "Post") false (.find (.int 1)) .reply,
      [.failure fun sql => .refused "busy" [] (some sql)]),
    (.operate (.text "Post") false
      (.update (.int 1) (.object [("title", .text "new")])) .reply, []),
    (.yield, []),
    (.operate (.text "Tag") false (.find (.int 2)) .reply, []),
    (.operate (.text "Post") false (.destroy (.int 1)) .reply, [])]

def retriedSession : ScriptedSession :=
  ⟨⟨false, false⟩, newWorld ⟨[.text "tag"], none, []⟩ true true []⟩

theorem provisioned_before_use_and_once_retried :
    (eventsOf retriedSteps retriedSession).map (fun es => es.map Event.purpose) =
        [[.provision "post"], [.provision "post", .data "post", .data "post"], [.catalog],
          [.data "tag"], [.data "post"]] ∧
      ∃ past e future, (eventsOf retriedSteps retriedSession).flatten = past ++ e :: future ∧
        e.Settles "post" ∧ ∀ e' ∈ future, e'.purpose ≠ .provision "post" := by
  have hpurposes : (eventsOf retriedSteps retriedSession).map (fun es => es.map Event.purpose) =
      [[.provision "post"], [.provision "post", .data "post", .data "post"], [.catalog],
        [.data "tag"], [.data "post"]] := by
    decide +kernel
  have hsecond : ∃ a b future, (eventsOf retriedSteps retriedSession).flatten = [a] ++ b :: future ∧
      b.Settles "post" := ⟨_, _, _, rfl, rfl, _, rfl⟩
  obtain ⟨a, b, future, hevents, hsettles⟩ := hsecond
  have hafter := (provisioned_before_use_and_once retriedSteps retriedSession).2.2.1 [a] b future
    hevents "post" hsettles
  exact ⟨hpurposes, [a], b, future, hevents, hsettles, hafter⟩

end SqlBridge.Adapter
