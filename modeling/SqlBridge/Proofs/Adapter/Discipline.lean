import SqlBridge.Proofs.Adapter.Course
import SqlBridge.Proofs.Adapter.Sending

/-!
Operations and failures. The calls of an operation are a prefix of its plan, a failed call is its
last one and gives its failure, and the registry contains the table after its provisioning has
succeeded.
-/

namespace SqlBridge.Adapter

open Sql

/-- The calls of a run without failures: the provisioning statement, if the table is unknown and
provisioning is on, and then the data statements. -/
def Operation.plan (o : Operation) (source : MapperSource) (registry : Registry) : List Call :=
  match source.resolve with
  | .error _ => []
  | .ok m =>
    if registry.known.contains (.text m.tableName) then writable (o.statements m)
    else
      match registry.autocreate, m.createTable with
      | true, .ok sql => ⟨sql, []⟩ :: writable (o.statements m)
      | _, _ => []

/-- A successful exchange of a provisioning statement. -/
def Provisions (e : Exchange) : Prop :=
  Remote.isProvisioning e.call.sql = true ∧ ∃ r, e.answer = .ok r

/-- The invariant of a run of an operation, over the world before it, its exchanges, its outcome and
the world after it. -/
structure Disciplined {σ : Type} (answer : Executor σ) (o : Operation) (source : MapperSource)
    (w : World σ) (history : List Exchange) (outcome : Outcome Reply) (after : World σ) : Prop where
  /-- The exchanges are the recorded calls. -/
  calls_eq : after.calls = w.calls ++ history.map Exchange.call
  /-- The answers are those of the remote side, in order. -/
  answers_eq : history.map Exchange.answer =
    answer.replay (history.map Exchange.call) w.remote
  /-- The calls are a prefix of the plan. -/
  planned : history.map Exchange.call <+: o.plan source w.registry
  /-- A successful operation has sent all of its data statements. -/
  complete : ∀ r, outcome = .ok r →
    dataCalls (history.map Exchange.call) = writable (o.statementsOf source.resolve)
  /-- A table is provisioned by the first exchange only, when it is unknown and provisioning is on.
  -/
  provisioned_first : ∀ past e future, history = past ++ e :: future →
    Remote.isProvisioning e.call.sql = true →
      past = [] ∧ w.registry.autocreate = true ∧
        ∃ m sql, source.resolve = .ok m ∧ m.createTable = .ok sql ∧ e.call = ⟨sql, []⟩ ∧
          w.registry.known.contains (.text m.tableName) = false
  /-- A failed call is the last one, and its failure is that of the operation. -/
  failed_last : ∀ past e future f, history = past ++ e :: future → e.answer = .error f →
    future = [] ∧ outcome = .error f
  /-- A provisioned table is known. -/
  learned : (∃ e ∈ history, Provisions e) →
    ∃ m, source.resolve = .ok m ∧ after.registry = withTable w.registry m
  /-- Without provisioning the registry is unchanged. -/
  kept : (¬∃ e ∈ history, Provisions e) → after.registry = w.registry

theorem Operation.plan_of_known {o : Operation} {source : MapperSource} {m : Schema.Mapper}
    {registry : Registry} (hm : source.resolve = .ok m)
    (hknown : registry.known.contains (.text m.tableName) = true) :
    o.plan source registry = writable (o.statementsOf source.resolve) := by
  rw [hm]
  simp only [Operation.plan, hm, hknown, if_true, Operation.statementsOf]

theorem Operation.plan_of_unknown {o : Operation} {source : MapperSource} {m : Schema.Mapper}
    {registry : Registry} {sql : String} (hm : source.resolve = .ok m)
    (hunknown : registry.known.contains (.text m.tableName) = false)
    (hauto : registry.autocreate = true) (hsql : m.createTable = .ok sql) :
    o.plan source registry = ⟨sql, []⟩ :: writable (o.statementsOf source.resolve) := by
  rw [hm]
  simp only [Operation.plan, hm, hunknown, hauto, hsql, Bool.false_eq_true, if_false,
    Operation.statementsOf]

theorem Follows.dataCalls_eq {statements : List (Outcome Statement)} {registry : Registry}
    {finished : Prop} {es : List Exchange} (h : Follows statements registry finished es) :
    dataCalls (es.map Exchange.call) = es.map Exchange.call := by
  unfold dataCalls
  rw [List.filter_eq_self]
  intro call hcall
  obtain ⟨e, he, rfl⟩ := List.mem_map.mp hcall
  rw [h.not_provisioning he]
  rfl

theorem dataCalls_provisioning {m : Schema.Mapper} {sql : String} (hsql : m.createTable = .ok sql) :
    dataCalls [⟨sql, []⟩] = [] := by
  simp [dataCalls, Schema.Mapper.isProvisioning_createTable hsql]

namespace Course

variable {owner : Outcome Schema.Mapper} {statements : List (Outcome Statement)}
  {before after : Registry} {finished : Prop} {es : List Exchange}

theorem planned {o : Operation} {source : MapperSource}
    (h : Course source.resolve (o.statementsOf source.resolve) before finished es after) :
    es.map Exchange.call <+: o.plan source before := by
  cases h with
  | idle _ => exact List.nil_prefix
  | known howner hknown h =>
    rw [Operation.plan_of_known howner hknown]
    exact h.calls_prefix
  | refused howner hunknown hauto hsql f _ =>
    rw [Operation.plan_of_unknown howner hunknown hauto hsql]
    exact List.prefix_append [_] _
  | provisioned howner hunknown hauto hsql r h =>
    rw [Operation.plan_of_unknown howner hunknown hauto hsql, List.map_cons]
    exact List.cons_prefix_cons.mpr ⟨rfl, h.calls_prefix⟩

theorem complete (h : Course owner statements before finished es after) (hfinished : finished) :
    dataCalls (es.map Exchange.call) = writable statements := by
  cases h with
  | idle h =>
    rw [h hfinished]
    rfl
  | known howner hknown h => rw [h.dataCalls_eq, h.calls_eq hfinished]
  | refused howner hunknown hauto hsql f h => exact absurd hfinished h
  | provisioned howner hunknown hauto hsql r h =>
    rw [List.map_cons, ← List.singleton_append, dataCalls_append, dataCalls_provisioning hsql,
      h.dataCalls_eq, h.calls_eq hfinished]
    rfl

/-- The data statements are sent in order in every course. -/
theorem dataCalls_begin (h : Course owner statements before finished es after) :
    dataCalls (es.map Exchange.call) <+: writable statements := by
  cases h with
  | idle _ => exact List.nil_prefix
  | known howner hknown h =>
    rw [h.dataCalls_eq]
    exact h.calls_prefix
  | refused howner hunknown hauto hsql f _ =>
    rw [List.map_singleton, dataCalls_provisioning hsql]
    exact List.nil_prefix
  | provisioned howner hunknown hauto hsql r h =>
    rw [List.map_cons, ← List.singleton_append, dataCalls_append, dataCalls_provisioning hsql,
      h.dataCalls_eq]
    exact h.calls_prefix

theorem provisioned_first (h : Course owner statements before finished es after)
    {past future : List Exchange} {e : Exchange} (hes : es = past ++ e :: future)
    (he : Remote.isProvisioning e.call.sql = true) :
    past = [] ∧ before.autocreate = true ∧
      ∃ m sql, owner = .ok m ∧ m.createTable = .ok sql ∧ e.call = ⟨sql, []⟩ ∧
        before.known.contains (.text m.tableName) = false := by
  cases h with
  | idle _ => simp at hes
  | known howner hknown h =>
    have hmem : e ∈ es := by simp [hes]
    rw [h.not_provisioning hmem] at he
    cases he
  | @refused m sql howner hunknown hauto hsql f _ =>
    cases past with
    | nil =>
      obtain ⟨rfl, -⟩ := List.cons_eq_cons.mp hes
      exact ⟨rfl, hauto, m, sql, howner, hsql, rfl, hunknown⟩
    | cons first past => simp at hes
  | @provisioned m sql howner hunknown hauto hsql r es h =>
    cases past with
    | nil =>
      obtain ⟨rfl, -⟩ := List.cons_eq_cons.mp hes
      exact ⟨rfl, hauto, m, sql, howner, hsql, rfl, hunknown⟩
    | cons first past =>
      have hmem : e ∈ es := by simp [(List.cons_eq_cons.mp hes).2]
      rw [h.not_provisioning hmem] at he
      cases he

/-- The registry changes only in the course with a provisioning. -/
theorem registry_after (h : Course owner statements before finished es after) :
    ((∃ e ∈ es, Provisions e) ∧ ∃ m, owner = .ok m ∧ after = withTable before m) ∨
      (¬∃ e ∈ es, Provisions e) ∧ after = before := by
  cases h with
  | idle _ =>
    refine Or.inr ⟨?_, rfl⟩
    rintro ⟨e, he, -⟩
    cases he
  | known howner hknown h =>
    refine Or.inr ⟨?_, rfl⟩
    rintro ⟨e, he, hprovisioning, -⟩
    rw [h.not_provisioning he] at hprovisioning
    cases hprovisioning
  | refused howner hunknown hauto hsql f _ =>
    refine Or.inr ⟨?_, rfl⟩
    rintro ⟨e, he, -, r, hr⟩
    rw [List.mem_singleton.mp he] at hr
    cases hr
  | @provisioned m sql howner hunknown hauto hsql r es h =>
    have hprovisioning := Schema.Mapper.isProvisioning_createTable hsql
    exact Or.inl ⟨⟨_, List.mem_cons_self, hprovisioning, r, rfl⟩, m, howner, rfl⟩

end Course

/-- An operation sends a prefix of the given data statements, and all of them when it succeeds. -/
def Sends {σ : Type} (answer : Executor σ) (o : Operation) (dbg : Bool) (source : MapperSource)
    (w : World σ) (data : List Call) : Prop :=
  ∃ calls, ((o.task dbg source).run answer w).2.calls = w.calls ++ calls ∧
    dataCalls calls <+: data ∧
    ∀ reply, ((o.task dbg source).run answer w).1 = .ok reply → dataCalls calls = data

theorem sends_writable {σ : Type} (answer : Executor σ) (dbg : Bool) {source : MapperSource}
    {m : Schema.Mapper} (hm : source.resolve = .ok m) (o : Operation) (w : World σ) :
    Sends answer o dbg source w (writable (o.statements m)) := by
  have hcourse := course_task answer dbg source o w
  rw [hm, Operation.statementsOf] at hcourse
  exact ⟨_, Task.calls_run _ w, hcourse.dataCalls_begin, fun reply hreply =>
    hcourse.complete ⟨reply, hreply⟩⟩

/-- An operation with one data statement sends no other one. -/
theorem sends_statement {σ : Type} (answer : Executor σ) (dbg : Bool) {source : MapperSource}
    {m : Schema.Mapper} (hm : source.resolve = .ok m) {o : Operation} (w : World σ)
    {statement : Outcome Statement} (hstatements : o.statements m = [statement]) :
    Sends answer o dbg source w (sent (statement >>= Statement.render)) := by
  have hsent : writable [statement] = sent (statement >>= Statement.render) := by
    unfold writable
    cases statement >>= Statement.render <;> rfl
  rw [← hsent, ← hstatements]
  exact sends_writable answer dbg hm o w

/-- The data statements among the calls of an operation are a prefix of its own. -/
theorem exists_calls_task {σ : Type} (answer : Executor σ) (dbg : Bool) {source : MapperSource}
    {m : Schema.Mapper} (hm : source.resolve = .ok m) (o : Operation) (w : World σ) :
    ∃ calls, ((o.task dbg source).run answer w).2.calls = w.calls ++ calls ∧
      dataCalls calls <+: writable (o.statements m) := by
  obtain ⟨calls, hcalls, hbegin, -⟩ := sends_writable answer dbg hm o w
  exact ⟨calls, hcalls, hbegin⟩

/-- Every operation, over every registry and every remote side, satisfies the invariant. -/
theorem disciplined {σ : Type} (answer : Executor σ) (dbg : Bool) (source : MapperSource)
    (o : Operation) (w : World σ) :
    Disciplined answer o source w ((o.task dbg source).history answer w)
      ((o.task dbg source).run answer w).1 ((o.task dbg source).run answer w).2 := by
  have hcourse := course_task answer dbg source o w
  have hregistry := hcourse.registry_after
  exact
    { calls_eq := Task.calls_run _ w
      answers_eq := Task.answers_history _ w
      planned := hcourse.planned
      complete := fun r hr => hcourse.complete ⟨r, hr⟩
      provisioned_first := fun past e future h he => hcourse.provisioned_first h he
      failed_last := fun past e future f h hfailed => Task.run_of_failed_call h hfailed
      learned := fun hprovisions => by
        rcases hregistry with ⟨-, m, hm, hafter⟩ | ⟨hnone, -⟩
        · exact ⟨m, hm, hafter⟩
        · exact absurd hprovisions hnone
      kept := fun hnone => by
        rcases hregistry with ⟨hprovisions, -⟩ | ⟨-, hafter⟩
        · exact absurd hprovisions hnone
        · exact hafter }

/-- Two records, the change of the second of which fails. -/
def halfwayRecords : Operation :=
  .updateMany (.list [.object [("_id", .int 1), ("title", .text "a")],
    .object [("_id", .int 2), ("title", .text "b")]])

def halfwayWorld : Remote.ScriptedWorld :=
  ⟨⟨[], none, [.result (.object []), .result (.object []),
    .failure fun sql => .refused "busy" [] (some sql)]⟩, ⟨.empty, true⟩, .absent, [], []⟩

/-- The table stays known although a later statement of the operation fails. -/
theorem disciplined_halfway :
    Disciplined Remote.Script.answer halfwayRecords (.described (.text "Post")) halfwayWorld
        ((halfwayRecords.task false (.described (.text "Post"))).history Remote.Script.answer
          halfwayWorld)
        ((halfwayRecords.task false (.described (.text "Post"))).run Remote.Script.answer
          halfwayWorld).1
        ((halfwayRecords.task false (.described (.text "Post"))).run Remote.Script.answer
          halfwayWorld).2 ∧
      ((halfwayRecords.task false (.described (.text "Post"))).history Remote.Script.answer
        halfwayWorld).map (fun e => Remote.isProvisioning e.call.sql) =
          [true, false, false, false] ∧
      (halfwayRecords.plan (.described (.text "Post")) halfwayWorld.registry).length = 5 ∧
      ((halfwayRecords.task false (.described (.text "Post"))).run Remote.Script.answer
        halfwayWorld).2.registry.known.contains (.text "post") = true := by
  refine ⟨disciplined _ _ _ _ _, ?_, ?_, ?_⟩
  · decide +kernel
  · decide +kernel
  · decide +kernel

end SqlBridge.Adapter
