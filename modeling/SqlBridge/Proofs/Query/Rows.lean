import SqlBridge.Proofs.Sql.Clause
import SqlBridge.Query

/-!
The rows selected by criteria. A read consists of its columns and table followed by the clauses of
the criteria; the condition of a change contains the same clauses, directly or in a read of row ids.
Both fail alike.
-/

namespace SqlBridge.Criteria

open Sql

/-- The rendered predicates, each one checked. -/
def conjuncts (c : Criteria) : Outcome (List (Fragment Value)) := do
  let (fragments, _) ← renderPredicates ⟨[], []⟩ c.predicates
  c.predicates.forM Predicate.check
  return fragments.map Fragment.values

/-- The clauses of a read under the criteria. -/
def rows (c : Criteria) : Outcome (Fragment Value) := do
  let page ← c.page
  let (rows, _) ← rowClauses ⟨[], []⟩ c.predicates c.order page
  c.predicates.forM Predicate.check
  return rows.values

/-- The condition of a change under the criteria, without clashes of columns. -/
def condition (c : Criteria) (table : String) : Outcome (Fragment Value) := do
  let scope ← c.scope table
  let condition ← scope.render ⟨[], []⟩
  scope.predicates.forM Predicate.check
  return condition.values

/-- A read is rendered when its clauses are. -/
theorem read_eq (c : Criteria) (table : String) {projection : Projection} {columns : String}
    (hcolumns : projection.render = .ok columns) :
    ((c.select projection table).map Statement.select >>= fun s => s.render) =
      c.rows.map fun rows => readLead columns table ++ rows := by
  unfold select rows
  cases c.page with
  | error f => rfl
  | ok page =>
    simp only [Outcome.ok_bind, Outcome.pure_eq_ok, Outcome.map_ok, Statement.render_select,
      Selection.render_eq, hcolumns]
    cases rowClauses ⟨[], []⟩ c.predicates c.order page with
    | error f => rfl
    | ok x =>
      simp only [Outcome.ok_bind, Outcome.map_ok]
      cases c.predicates.forM Predicate.check <;> rfl

/-- A removal is rendered when its condition is. -/
theorem removal_eq (c : Criteria) (table : String) :
    ((c.scope table).map (Statement.delete table) >>= fun s => s.render) =
      (c.condition table).map fun condition =>
        Fragment.ofText ("DELETE FROM " ++ identifier table) ++ condition := by
  unfold condition
  cases c.scope table with
  | error f => rfl
  | ok scope =>
    simp only [Outcome.ok_bind, Outcome.map_ok, Statement.render_delete]
    cases scope.render ⟨[], []⟩ with
    | error f => rfl
    | ok condition =>
      simp only [Outcome.ok_bind]
      cases scope.predicates.forM Predicate.check <;> rfl

theorem paginated_eq_false_iff (c : Criteria) :
    c.paginated = false ↔ c.limit = .null ∧ c.offset = .null ∧ c.order = [] := by
  obtain ⟨predicates, order, limit, offset⟩ := c
  cases limit <;> cases offset <;> cases order <;> simp [paginated, Value.isNull]

/-- Ordered or paged rows are selected by the read of their row ids. -/
theorem condition_of_paginated {c : Criteria} (h : c.paginated = true) (table : String) :
    c.condition table = c.rows.map fun rows =>
      Fragment.ofText " WHERE rowid IN (" ++ (readLead "rowid" table ++ rows)
        ++ Fragment.ofText ")" := by
  unfold condition scope rows select
  rw [if_pos h]
  cases c.page with
  | error f => rfl
  | ok page =>
    simp only [Outcome.ok_bind, Outcome.pure_eq_ok, Outcome.map_ok, Scope.render,
      Selection.render_eq, Projection.render, Scope.predicates]
    cases rowClauses ⟨[], []⟩ c.predicates c.order page with
    | error f => rfl
    | ok x =>
      simp only [Outcome.ok_bind, Outcome.map_ok, Fragment.values_append, Fragment.values_ofText,
        values_readLead]
      cases c.predicates.forM Predicate.check <;> rfl

/-- Other rows are selected by the conditions only. -/
theorem condition_of_not_paginated {c : Criteria} (h : c.paginated = false) (table : String) :
    c.condition table = c.conjuncts.map (whereClause " WHERE ") := by
  unfold condition scope conjuncts
  rw [h]
  cases hpredicates : c.predicates with
  | nil => rfl
  | cons p rest =>
    simp only [Bool.false_eq_true, if_false, List.isEmpty_cons, Outcome.ok_bind, Scope.render,
      Scope.predicates]
    cases renderPredicates ⟨[], []⟩ (p :: rest) with
    | error f => rfl
    | ok x =>
      simp only [Outcome.ok_bind, Outcome.pure_eq_ok, values_whereClause]
      cases (p :: rest).forM Predicate.check <;> rfl

theorem rows_of_not_paginated {c : Criteria} (h : c.paginated = false) :
    c.rows = c.conjuncts.map (whereClause " \nWHERE ") := by
  obtain ⟨hlimit, hoffset, horder⟩ := (paginated_eq_false_iff c).mp h
  have hpage : c.page = .ok ⟨none, none⟩ := by
    unfold page
    rw [hlimit, hoffset]
    rfl
  unfold rows conjuncts rowClauses
  rw [hpage, horder]
  simp only [Outcome.ok_bind]
  cases renderPredicates ⟨[], []⟩ c.predicates with
  | error f => rfl
  | ok x =>
    simp only [Outcome.ok_bind]
    cases c.predicates.forM Predicate.check with
    | error f => rfl
    | ok u =>
      change Except.ok
        (whereClause " \nWHERE " x.1 ++ Fragment.ofText "" ++ Fragment.ofText "").values = _
      rw [Fragment.append_ofText_empty, Fragment.append_ofText_empty, values_whereClause]
      rfl

end SqlBridge.Criteria
