import SqlBridge.Adapter.Operation
import SqlBridge.Proofs.Outcome
import SqlBridge.Proofs.Sql.Verb

/-!
The statements of an operation as a function of its arguments. All of them are on the table of its
mapper, and they are rendered in order up to the first that cannot be.
-/

namespace SqlBridge.Adapter

open Sql

/-- The statement that reads a record back. -/
def findStatement (m : Schema.Mapper) (id : Value) : Outcome Statement := do
  let predicate ← identified m id
  return .select ⟨.everything, m.tableName, [predicate], [], ⟨some 1, none⟩⟩

/-- The change of a record and the reading back; an empty change cannot be rendered. -/
def changeStatements (m : Schema.Mapper) (id props : Value) : List (Outcome Statement) :=
  if props.truthy then [updateStatement m id props, findStatement m id]
  else [.error (.emptyUpdate m.tableName)]

/-- The change of a record that has its own id. -/
def recordStatements (m : Schema.Mapper) (record : Value) : List (Outcome Statement) :=
  match changes record with
  | .ok fields => changeStatements m (Value.field fields m.idAttribute) record
  | .error f => [.error f]

/-- The data statements of an operation, in order. -/
def Operation.statements (m : Schema.Mapper) : Operation → List (Outcome Statement)
  | .count query =>
    [Criteria.empty.compile query >>= fun c => (c.select .count m.tableName).map .select]
  | .create props =>
    [newRecord props >>= fun record =>
      .ok (.insertRow m.tableName record.keys (boundRow record record.keys))]
  | .createMany rows =>
    if rows.truthy then
      [size rows >>= fun _ => newRows (rows.members?.getD []) >>= fun (columns, values) =>
        .ok (.insert m.tableName columns values)]
    else []
  | .find id => [findStatement m id]
  | .findAll query =>
    [Criteria.empty.compile query >>= fun c => (c.select .everything m.tableName).map .select]
  | .update id props => changeStatements m id props
  | .updateAll props query =>
    [if props.truthy then updateAllStatement m props query else .error (.emptyUpdate m.tableName)]
  | .updateMany records => (records.members?.getD []).flatMap (recordStatements m)
  | .destroy id =>
    [identified m id >>= fun predicate => .ok (.delete m.tableName (.satisfying [predicate]))]
  | .destroyAll query =>
    [Criteria.empty.compile query >>= fun c => (c.scope m.tableName).map (.delete m.tableName)]
  | .sum field query =>
    [Criteria.empty.compile query >>= fun c =>
      (c.select (.sum (ColumnName.ofValue field)) m.tableName).map .select]

/-- The statements of an operation whose mapper may be invalid. -/
def Operation.statementsOf (owner : Outcome Schema.Mapper) (o : Operation) :
    List (Outcome Statement) :=
  match owner with
  | .ok m => o.statements m
  | .error _ => []

theorem table_select {c : Criteria} {projection : Projection} {table : String} {s : Statement}
    (h : (c.select projection table).map Statement.select = .ok s) : s.table = table := by
  obtain ⟨selection, hselect, rfl⟩ := Outcome.map_eq_ok_iff.mp h
  simp only [Criteria.select, Outcome.bind_eq_ok_iff] at hselect
  obtain ⟨page, -, heq⟩ := hselect
  cases heq
  rfl

theorem table_findStatement {m : Schema.Mapper} {id : Value} {s : Statement}
    (h : findStatement m id = .ok s) : s.table = m.tableName := by
  obtain ⟨predicate, -, heq⟩ := Outcome.bind_eq_ok_iff.mp h
  cases heq
  rfl

theorem table_updateStatement {m : Schema.Mapper} {id props : Value} {s : Statement}
    (h : updateStatement m id props = .ok s) : s.table = m.tableName := by
  simp only [updateStatement, Outcome.bind_eq_ok_iff] at h
  obtain ⟨-, -, predicate, -, fields, -, heq⟩ := h
  cases heq
  rfl

theorem table_changeStatements {m : Schema.Mapper} {id props : Value} {s : Statement}
    (h : .ok s ∈ changeStatements m id props) : s.table = m.tableName := by
  unfold changeStatements at h
  by_cases hprops : props.truthy = true
  · rw [if_pos hprops] at h
    rcases List.mem_cons.mp h with hupdate | h
    · exact table_updateStatement hupdate.symm
    · exact table_findStatement (List.mem_singleton.mp h).symm
  · rw [if_neg hprops, List.mem_singleton] at h
    cases h

theorem table_recordStatements {m : Schema.Mapper} {record : Value} {s : Statement}
    (h : .ok s ∈ recordStatements m record) : s.table = m.tableName := by
  unfold recordStatements at h
  cases hfields : changes record with
  | ok fields =>
    rw [hfields] at h
    exact table_changeStatements h
  | error f =>
    rw [hfields, List.mem_singleton] at h
    cases h

theorem table_queried {query : Value} {statement : Criteria → Outcome Statement} {table : String}
    {s : Statement} (htable : ∀ c, statement c = .ok s → s.table = table)
    (h : .ok s ∈ [Criteria.empty.compile query >>= statement]) : s.table = table := by
  obtain ⟨c, -, hc⟩ := Outcome.bind_eq_ok_iff.mp (List.mem_singleton.mp h).symm
  exact htable c hc

/-- The statements of an operation are all on the table of its mapper. -/
theorem table_of_mem_statements {m : Schema.Mapper} {o : Operation} {s : Statement}
    (h : .ok s ∈ o.statements m) : s.table = m.tableName := by
  cases o with
  | count query => exact table_queried (fun _ => table_select) h
  | findAll query => exact table_queried (fun _ => table_select) h
  | sum field query => exact table_queried (fun _ => table_select) h
  | destroyAll query =>
    refine table_queried (fun c hc => ?_) h
    obtain ⟨scope, -, rfl⟩ := Outcome.map_eq_ok_iff.mp hc
    rfl
  | create props =>
    obtain ⟨record, -, heq⟩ := Outcome.bind_eq_ok_iff.mp (List.mem_singleton.mp h).symm
    cases heq
    rfl
  | createMany rows =>
    rw [Operation.statements] at h
    by_cases hrows : rows.truthy = true
    · rw [if_pos hrows, List.mem_singleton, eq_comm] at h
      simp only [Outcome.bind_eq_ok_iff] at h
      obtain ⟨n, -, x, -, heq⟩ := h
      cases heq
      rfl
    · rw [if_neg hrows] at h
      cases h
  | find id => exact table_findStatement (List.mem_singleton.mp h).symm
  | update id props => exact table_changeStatements h
  | updateAll props query =>
    rw [Operation.statements, List.mem_singleton] at h
    by_cases hprops : props.truthy = true
    · rw [if_pos hprops, eq_comm] at h
      simp only [updateAllStatement, Outcome.bind_eq_ok_iff] at h
      obtain ⟨-, -, c, -, fields, -, scope, -, heq⟩ := h
      cases heq
      rfl
    · rw [if_neg hprops] at h
      cases h
  | updateMany records =>
    obtain ⟨record, -, hrecord⟩ := List.mem_flatMap.mp h
    exact table_recordStatements hrecord
  | destroy id =>
    obtain ⟨predicate, -, heq⟩ := Outcome.bind_eq_ok_iff.mp (List.mem_singleton.mp h).symm
    cases heq
    rfl

/-- The calls of statements up to the first that cannot be rendered. -/
def writable : List (Outcome Statement) → List Call
  | [] => []
  | statement :: rest =>
    match statement >>= Statement.render with
    | .ok f => ⟨f.text, f.params⟩ :: writable rest
    | .error _ => []

/-- The calls that are not provisioning statements. -/
def dataCalls (calls : List Call) : List Call :=
  calls.filter fun call => !Remote.isProvisioning call.sql

theorem dataCalls_append (calls more : List Call) :
    dataCalls (calls ++ more) = dataCalls calls ++ dataCalls more := List.filter_append ..

theorem mem_writable {statements : List (Outcome Statement)} {call : Call}
    (h : call ∈ writable statements) :
    ∃ s f, .ok s ∈ statements ∧ s.render = .ok f ∧ call = ⟨f.text, f.params⟩ := by
  induction statements with
  | nil => cases h
  | cons statement rest ih =>
    unfold writable at h
    cases hwritten : statement >>= Statement.render with
    | error f =>
      rw [hwritten] at h
      cases h
    | ok f =>
      rw [hwritten] at h
      rcases List.mem_cons.mp h with rfl | h
      · obtain ⟨s, rfl, hrender⟩ := Outcome.bind_eq_ok_iff.mp hwritten
        exact ⟨s, f, List.mem_cons_self, hrender, rfl⟩
      · obtain ⟨s, f', hs, hrender, hcall⟩ := ih h
        exact ⟨s, f', List.mem_cons_of_mem statement hs, hrender, hcall⟩

/-- The first call is that of the first statement. -/
theorem exists_of_writable_eq_cons {statements : List (Outcome Statement)} {call : Call}
    {rest : List Call} (h : writable statements = call :: rest) :
    ∃ s f others, statements = .ok s :: others ∧ s.render = .ok f ∧
      call = ⟨f.text, f.params⟩ := by
  cases statements with
  | nil => cases h
  | cons statement others =>
    unfold writable at h
    cases hwritten : statement >>= Statement.render with
    | error f =>
      rw [hwritten] at h
      cases h
    | ok f =>
      rw [hwritten] at h
      obtain ⟨s, rfl, hrender⟩ := Outcome.bind_eq_ok_iff.mp hwritten
      exact ⟨s, f, others, rfl, hrender, (List.cons_eq_cons.mp h).1.symm⟩

/-- A data statement is not a provisioning statement. -/
theorem isProvisioning_of_mem_writable {statements : List (Outcome Statement)} {call : Call}
    (h : call ∈ writable statements) : Remote.isProvisioning call.sql = false := by
  obtain ⟨s, f, -, hrender, rfl⟩ := mem_writable h
  exact Statement.isProvisioning_render hrender

end SqlBridge.Adapter
