import SqlBridge.Proofs.Adapter.Discipline
import SqlBridge.Proofs.Sql.Insertion

/-!
The values stored by operations. They are the first parameters of the first statement, in the order
of the columns and in their bound form; the parameters of the condition of a change follow.
-/

namespace SqlBridge.Adapter

open Sql

/-- The fields of a row; a value other than a record has none. -/
def rowFields : Value → Fields Value
  | .object record => record
  | _ => []

/-- The values of common columns, row by row. -/
def rowValues (columns : List String) (rows : List Value) : List Value :=
  rows.flatMap fun row => columns.map (Value.field (rowFields row))

/-- The values that an operation stores, in the order of their columns. A change of many records is
not included, because it consists of several changes. -/
def Operation.given : Operation → Outcome (List Value)
  | .create props => (newRecord props).map fun record => record.keys.map (Value.field record)
  | .createMany rows =>
    (newRows (rows.members?.getD [])).map fun (columns, _) =>
      rowValues columns (rows.members?.getD [])
  | .update _ props => (changes props).map (·.map (·.2))
  | .updateAll props _ => (changes props).map (·.map (·.2))
  | _ => .ok []

theorem boundRow_eq (record : Fields Value) (columns : List String) :
    boundRow record columns = (columns.map (Value.field record)).map bound := by
  simp [boundRow]

/-- Rows of an insertion hold the values of their columns. -/
theorem flatten_newRow {columns : List String} {rows : List Value} {values : List (List Value)}
    (h : rows.mapM (newRow columns) = .ok values) :
    values.flatten = (rowValues columns rows).map bound ∧
      ∀ row ∈ values, row.length = columns.length := by
  induction rows generalizing values with
  | nil =>
    cases h
    exact ⟨rfl, by simp⟩
  | cons row rest ih =>
    obtain ⟨first, others, hfirst, hothers, rfl⟩ := Outcome.mapM_cons_eq_ok_iff.mp h
    obtain ⟨hflatten, hlength⟩ := ih hothers
    have hrow : first = (columns.map (Value.field (rowFields row))).map bound := by
      unfold newRow at hfirst
      split at hfirst
      · cases hfirst
        exact boundRow_eq _ columns
      · -- What is no record stands for a row only where there is no column to fill.
        split_ifs at hfirst with hcolumns
        cases hfirst
        rw [List.isEmpty_iff.mp hcolumns]
        rfl
    constructor
    · rw [List.flatten_cons, hflatten, hrow, rowValues, rowValues, List.flatMap_cons,
        List.map_append]
    · exact List.forall_mem_cons.mpr ⟨by simp [hrow], hlength⟩

theorem params_insertRow {table : String} {record : Fields Value} {f : Fragment Value}
    (h : (Statement.insertRow table record.keys (boundRow record record.keys)).render = .ok f) :
    f.params = (record.keys.map (Value.field record)).map bound := by
  obtain ⟨draft, hdraft, rfl⟩ := Statement.exists_draft_of_render h
  rw [Statement.values_draft_insertRow hdraft (List.length_map _), params_insertText, boundRow_eq,
    List.flatten_singleton]
  intro hkeys row hrow
  rw [List.mem_singleton.mp hrow, hkeys]
  rfl

theorem params_insert {table : String} {rows : List Value} {columns : List String}
    {values : List (List Value)} {f : Fragment Value} (hrows : newRows rows = .ok (columns, values))
    (h : (Statement.insert table columns values).render = .ok f) :
    f.params = (rowValues columns rows).map bound := by
  have hvalues : rows.mapM (newRow columns) = .ok values := by
    simp only [newRows, Outcome.bind_eq_ok_iff] at hrows
    obtain ⟨names, -, -, -, read, hread, heq⟩ := hrows
    cases heq
    exact hread
  obtain ⟨hflatten, hlength⟩ := flatten_newRow hvalues
  obtain ⟨draft, hdraft, rfl⟩ := Statement.exists_draft_of_render h
  rw [Statement.values_draft_insert hdraft hlength, params_insertText, hflatten]
  rintro rfl row hrow
  exact List.length_eq_zero_iff.mp (hlength row hrow)

/-- A change has its new values before the parameters of its condition. -/
theorem exists_params_update {table : String} {fields : Fields Value} {scope : Scope}
    {f : Fragment Value}
    (h : (Statement.update table (boundFields fields) scope).render = .ok f) :
    ∃ more, f.params = (fields.map (·.2)).map bound ++ more := by
  obtain ⟨draft, hdraft, rfl⟩ := Statement.exists_draft_of_render h
  simp only [Statement.draft, Outcome.bind_eq_ok_iff, Outcome.pure_eq_ok,
    Except.ok.injEq] at hdraft
  obtain ⟨-, -, restriction, -, rfl⟩ := hdraft
  refine ⟨restriction.values.params, ?_⟩
  have hassigned : (boundFields fields).flatMap (fun field => (assignment field).values.params) =
      (fields.map (·.2)).map bound := by
    rw [boundFields, List.flatMap_map, List.map_map, List.map_eq_flatMap]
    rfl
  simp only [Fragment.values_append, Fragment.values_join, Fragment.params_append,
    Fragment.params_join, List.flatMap_map, hassigned]
  rfl

/-- A statement stores the given values of its operation: their bound forms come before its other
parameters. -/
def Operation.Stores (o : Operation) (params : List Value) : Prop :=
  ∃ values more, o.given = .ok values ∧ params = values.map bound ++ more

theorem stores_of_given_nil {o : Operation} (h : o.given = .ok []) (params : List Value) :
    o.Stores params := ⟨[], params, h, rfl⟩

/-- The first statement of an operation stores the given values. -/
theorem stores_first {m : Schema.Mapper} {o : Operation} {s : Statement} {f : Fragment Value}
    {rest : List (Outcome Statement)} (h : o.statements m = .ok s :: rest)
    (hrender : s.render = .ok f) : o.Stores f.params := by
  cases o with
  | create props =>
    obtain ⟨record, hrecord, heq⟩ := Outcome.bind_eq_ok_iff.mp (List.cons_eq_cons.mp h).1
    cases heq
    exact ⟨_, [], by simp [Operation.given, hrecord],
      (params_insertRow hrender).trans (List.append_nil _).symm⟩
  | createMany rows =>
    rw [Operation.statements] at h
    split_ifs at h
    have hstatement := (List.cons_eq_cons.mp h).1
    simp only [Outcome.bind_eq_ok_iff] at hstatement
    obtain ⟨n, -, ⟨columns, values⟩, hrows, heq⟩ := hstatement
    cases heq
    exact ⟨_, [], by simp [Operation.given, hrows],
      (params_insert hrows hrender).trans (List.append_nil _).symm⟩
  | update id props =>
    simp only [Operation.statements, changeStatements] at h
    split_ifs at h
    · have hstatement := (List.cons_eq_cons.mp h).1
      simp only [updateStatement, Outcome.bind_eq_ok_iff] at hstatement
      obtain ⟨-, -, predicate, -, fields, hfields, heq⟩ := hstatement
      cases heq
      obtain ⟨more, hmore⟩ := exists_params_update hrender
      exact ⟨_, more, by simp [Operation.given, hfields], hmore⟩
    · cases (List.cons_eq_cons.mp h).1
  | updateAll props query =>
    have hstatement := (List.cons_eq_cons.mp h).1
    split_ifs at hstatement
    simp only [updateAllStatement, Outcome.bind_eq_ok_iff] at hstatement
    obtain ⟨-, -, c, -, fields, hfields, scope, -, heq⟩ := hstatement
    cases heq
    obtain ⟨more, hmore⟩ := exists_params_update hrender
    exact ⟨_, more, by simp [Operation.given, hfields], hmore⟩
  | count query => exact stores_of_given_nil rfl _
  | find id => exact stores_of_given_nil rfl _
  | findAll query => exact stores_of_given_nil rfl _
  | updateMany records => exact stores_of_given_nil rfl _
  | destroy id => exact stores_of_given_nil rfl _
  | destroyAll query => exact stores_of_given_nil rfl _
  | sum field query => exact stores_of_given_nil rfl _

/-- The first data statement sent by an operation stores the given values. -/
theorem stores_sent {σ : Type} (answer : Executor σ) (dbg : Bool) {source : MapperSource}
    {m : Schema.Mapper} (hm : source.resolve = .ok m) (o : Operation) (w : World σ) :
    ∃ calls, ((o.task dbg source).run answer w).2.calls = w.calls ++ calls ∧
      ∀ call rest, dataCalls calls = call :: rest → o.Stores call.params := by
  obtain ⟨calls, hcalls, hbegin⟩ := exists_calls_task answer dbg hm o w
  refine ⟨calls, hcalls, fun call rest hdata => ?_⟩
  obtain ⟨more, hmore⟩ := hbegin
  rw [hdata, List.cons_append] at hmore
  obtain ⟨s, f, others, hstatements, hrender, rfl⟩ := exists_of_writable_eq_cons hmore.symm
  exact stores_first hstatements hrender

end SqlBridge.Adapter
