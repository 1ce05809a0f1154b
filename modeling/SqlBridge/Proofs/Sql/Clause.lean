import SqlBridge.Proofs.Sql.Binding

/-!
Clauses of statements. A read consists of its columns and its table, followed by the clauses that
select rows; a change of ordered or paged rows contains such a read of row ids. The clauses depend
on predicates, order and page only, so a read and a change with the same ones select by the same
text and the same parameters.
-/

namespace SqlBridge.Sql

section

variable {α : Type}

theorem Fragment.append_assoc (a b c : Fragment α) : a ++ b ++ c = a ++ (b ++ c) := by
  change (⟨a.text ++ b.text ++ c.text, a.params ++ b.params ++ c.params⟩ : Fragment α) =
    ⟨a.text ++ (b.text ++ c.text), a.params ++ (b.params ++ c.params)⟩
  rw [String.append_assoc, List.append_assoc]

theorem Fragment.append_ofText_empty (a : Fragment α) : a ++ ofText "" = a := by
  change (⟨a.text ++ "", a.params ++ []⟩ : Fragment α) = a
  rw [String.append_empty, List.append_nil]

end

/-- The clauses that select the rows of a read: condition, order and page. -/
def rowClauses (binds : Binds) (predicates : List Predicate) (orders : List Order)
    (page : Page) : Outcome (Fragment Slot × Binds) := do
  let (predicates, binds) ← renderPredicates binds predicates
  let order ← orderClause orders
  let (page, binds) ← page.render binds
  return (whereClause " \nWHERE " predicates ++ Fragment.ofText order ++ page, binds)

/-- The text of a read before its clauses. -/
def readLead {α : Type} (columns table : String) : Fragment α :=
  Fragment.ofText ("SELECT " ++ columns ++ " \nFROM " ++ identifier table)

@[simp] theorem values_readLead (columns table : String) :
    (readLead columns table).values = readLead columns table := rfl

theorem Selection.render_eq (binds : Binds) (s : Selection) :
    s.render binds = s.projection.render >>= fun columns =>
      (rowClauses binds s.predicates s.order s.page).map fun x =>
        (readLead columns s.table ++ x.1, x.2) := by
  unfold Selection.render rowClauses
  cases s.projection.render with
  | error f => rfl
  | ok columns =>
    cases renderPredicates binds s.predicates with
    | error f => rfl
    | ok x =>
      cases orderClause s.order with
      | error f => rfl
      | ok order =>
        obtain ⟨predicates, binds⟩ := x
        simp only [Outcome.ok_bind]
        cases s.page.render binds with
        | error f => rfl
        | ok y =>
          simp only [Outcome.ok_bind, Outcome.pure_eq_ok, Outcome.map_ok, readLead,
            Fragment.append_assoc]

namespace Statement

theorem render_select (s : Selection) :
    (select s).render = s.render ⟨[], []⟩ >>= fun x =>
      s.predicates.forM Predicate.check >>= fun _ => .ok x.1.values := by
  rw [render_of_plain (by simp [columns])]
  simp only [draft]
  cases s.render ⟨[], []⟩ <;> rfl

theorem render_delete (table : String) (scope : Scope) :
    (delete table scope).render = scope.render ⟨[], []⟩ >>= fun condition =>
      scope.predicates.forM Predicate.check >>= fun _ =>
        .ok (Fragment.ofText ("DELETE FROM " ++ identifier table) ++ condition.values) := by
  rw [render_of_plain (by simp [columns])]
  simp only [draft]
  cases scope.render ⟨[], []⟩ with
  | error f => rfl
  | ok condition =>
    simp only [Outcome.ok_bind, Outcome.pure_eq_ok, Fragment.values_append,
      Fragment.values_ofText]
    rfl

/-- A change of distinct columns with nothing to escape in their names is rendered as it is drafted.
-/
theorem render_update {table : String} {assignments : Fields Value}
    (hdistinct : assignments.keys.Nodup)
    (hplain : ∀ name ∈ assignments.keys, isPlainBind name = true) (scope : Scope) :
    (update table assignments scope).render =
      scope.render ⟨assignments.keys, []⟩ >>= fun condition =>
        scope.predicates.forM Predicate.check >>= fun _ =>
          .ok (Fragment.ofText ("UPDATE " ++ identifier table ++ " SET ")
            ++ Fragment.join ", " (assignments.map fun field => (assignment field).values)
            ++ condition.values) := by
  rw [render_of_plain (s := update table assignments scope) hplain]
  simp only [draft, (checkDistinct_eq_ok_iff _).mpr hdistinct, Outcome.ok_bind]
  cases scope.render ⟨assignments.keys, []⟩ with
  | error f => rfl
  | ok condition =>
    simp only [Outcome.ok_bind, Outcome.pure_eq_ok, Fragment.values_append,
      Fragment.values_ofText, Fragment.values_join, List.map_map]
    rfl

end Statement

/-- The condition of a change is the same for all changed columns, unless one of them has the name
of a parameter in it. -/
theorem Scope.render_eq {scope : Scope} {condition : Fragment Slot}
    (h : scope.render ⟨[], []⟩ = .ok condition) (columns : List String) :
    scope.render ⟨columns, []⟩ =
      (checkNames columns (numberedFrom [] scope.bases)).map fun _ => condition := by
  cases scope with
  | all =>
    cases h
    rfl
  | satisfying predicates =>
    obtain ⟨⟨fragments, after⟩, hpredicates, hcondition⟩ := Outcome.bind_eq_ok_iff.mp h
    cases hcondition
    have hcolumns := (takes_renderPredicates predicates [] fragments after hpredicates).2 columns
    simp only at hcolumns
    simp only [Scope.render, hcolumns, Scope.bases]
    cases checkNames columns (numberedFrom [] (predicates.flatMap Predicate.bases)) <;> rfl
  | chosen rows =>
    obtain ⟨⟨fragment, after⟩, hrows, hcondition⟩ := Outcome.bind_eq_ok_iff.mp h
    cases hcondition
    have hcolumns := (rows.takes [] fragment after hrows).2 columns
    simp only at hcolumns
    simp only [Scope.render, hcolumns, Scope.bases]
    cases checkNames columns (numberedFrom [] rows.bases) <;> rfl

end SqlBridge.Sql
