import SqlBridge.Adapter.Session
import SqlBridge.Proofs.Adapter.Sending
import SqlBridge.Proofs.Query.Rows

/-!
Removals compared with reads. A query is compiled in the same way for the read and for the removal
of its rows; the read has the clauses of the query, the removal has a condition made of them. They
are rendered for the same queries, with the same parameters and the same text of the clauses.
-/

namespace SqlBridge.Criteria

open Sql

/-- The read of the rows that a query selects. -/
def read (table : String) (query : Value) : Outcome (Fragment Value) :=
  empty.compile query >>= fun c =>
    (c.select .everything table).map Statement.select >>= fun s => s.render

/-- The removal of the rows that a query selects. -/
def removal (table : String) (query : Value) : Outcome (Fragment Value) :=
  empty.compile query >>= fun c =>
    (c.scope table).map (Statement.delete table) >>= fun s => s.render

/-- A removal has the conditions of the read, or, for ordered or paged rows, a subquery with the
clauses of the read that selects row ids. -/
structure ChoosesAs (table : String) (c : Criteria) (removal read : Fragment Value) : Prop where
  params : removal.params = read.params
  plain : c.limit = .null ∧ c.offset = .null ∧ c.order = [] →
    (c.predicates = [] → read.text = "SELECT * \nFROM " ++ identifier table ∧
      removal.text = "DELETE FROM " ++ identifier table) ∧
    (c.predicates ≠ [] → ∃ condition,
      read.text = "SELECT * \nFROM " ++ identifier table ++ " \nWHERE " ++ condition ∧
      removal.text = "DELETE FROM " ++ identifier table ++ " WHERE " ++ condition)
  chosen : c.limit ≠ .null ∨ c.offset ≠ .null ∨ c.order ≠ [] → ∃ clauses,
    read.text = "SELECT * \nFROM " ++ identifier table ++ clauses ∧
    removal.text = "DELETE FROM " ++ identifier table ++ " WHERE rowid IN ("
      ++ ("SELECT rowid \nFROM " ++ identifier table ++ clauses) ++ ")"

theorem read_of_compile {query : Value} {c : Criteria} (h : empty.compile query = .ok c)
    (table : String) :
    read table query = c.rows.map fun rows => readLead "*" table ++ rows := by
  unfold read
  rw [h, Outcome.ok_bind, c.read_eq table rfl]

theorem removal_of_compile {query : Value} {c : Criteria} (h : empty.compile query = .ok c)
    (table : String) :
    removal table query = (c.condition table).map fun condition =>
      Fragment.ofText ("DELETE FROM " ++ identifier table) ++ condition := by
  unfold removal
  rw [h, Outcome.ok_bind, c.removal_eq table]

/-- There is one conjunct for each predicate. -/
theorem length_renderPredicates {predicates : List Predicate} {binds after : Binds}
    {fragments : List (Fragment Slot)}
    (h : renderPredicates binds predicates = .ok (fragments, after)) :
    fragments.length = predicates.length := by
  induction predicates generalizing binds fragments after with
  | nil =>
    cases h
    rfl
  | cons p rest ih =>
    obtain ⟨⟨fragment, middle⟩, -, hrest⟩ := Outcome.bind_eq_ok_iff.mp h
    obtain ⟨⟨others, last⟩, hothers, hresult⟩ := Outcome.bind_eq_ok_iff.mp hrest
    cases hresult
    rw [List.length_cons, List.length_cons, ih hothers]

theorem conjuncts_eq_nil_iff {c : Criteria} {fragments : List (Fragment Value)}
    (h : c.conjuncts = .ok fragments) : fragments = [] ↔ c.predicates = [] := by
  obtain ⟨⟨written, after⟩, hwritten, hrest⟩ := Outcome.bind_eq_ok_iff.mp h
  obtain ⟨-, -, hresult⟩ := Outcome.bind_eq_ok_iff.mp hrest
  cases hresult
  rw [← List.length_eq_zero_iff, List.length_map, length_renderPredicates hwritten,
    List.length_eq_zero_iff]

/-- Conjuncts have the same text under either lead. -/
theorem choosesAs_of_conjuncts {c : Criteria} {fragments : List (Fragment Value)}
    (hplain : c.paginated = false) (h : c.conjuncts = .ok fragments) (table : String) :
    ChoosesAs table c
      (Fragment.ofText ("DELETE FROM " ++ identifier table) ++ whereClause " WHERE " fragments)
      (readLead "*" table ++ whereClause " \nWHERE " fragments) := by
  have hnone := conjuncts_eq_nil_iff h
  have hshape := (paginated_eq_false_iff c).mp hplain
  cases fragments with
  | nil =>
    refine ⟨rfl, fun _ => ⟨fun _ => ⟨?_, ?_⟩, fun hne => absurd (hnone.mp rfl) hne⟩, ?_⟩
    · simp [whereClause, readLead]
    · simp [whereClause]
    · intro hpaged
      simp [hshape] at hpaged
  | cons first rest =>
    refine ⟨rfl, fun _ => ⟨fun heq => absurd (hnone.mpr heq) (by simp), fun _ => ?_⟩, ?_⟩
    · refine ⟨(Fragment.join " AND " (first :: rest)).text, ?_, ?_⟩
      · simp [whereClause, readLead, String.append_assoc]
      · simp [whereClause, String.append_assoc]
    · intro hpaged
      simp [hshape] at hpaged

/-- Ordered or paged rows are selected by the clauses of the read. -/
theorem choosesAs_of_rows {c : Criteria} (hpaged : c.paginated = true) (table : String)
    (rows : Fragment Value) :
    ChoosesAs table c
      (Fragment.ofText ("DELETE FROM " ++ identifier table) ++
        (Fragment.ofText " WHERE rowid IN (" ++ (readLead "rowid" table ++ rows)
          ++ Fragment.ofText ")"))
      (readLead "*" table ++ rows) := by
  refine ⟨by simp [readLead], fun hplain => ?_, fun _ => ⟨rows.text, ?_, ?_⟩⟩
  · rw [(paginated_eq_false_iff c).mpr hplain] at hpaged
    exact absurd hpaged (by simp)
  · simp [readLead]
  · simp [readLead, String.append_assoc]

/-- The read and the removal of the rows of a query are both rendered, or both fail alike. -/
theorem choosesAs_or_fail (table : String) (query : Value) :
    match read table query, removal table query with
    | .ok r, .ok d => ∃ c, empty.compile query = .ok c ∧ ChoosesAs table c d r
    | .error f, .error g => f = g
    | _, _ => False := by
  cases hcompile : empty.compile query with
  | error f =>
    unfold read removal
    rw [hcompile]
    rfl
  | ok c =>
    rw [read_of_compile hcompile, removal_of_compile hcompile]
    cases hpaged : c.paginated with
    | true =>
      rw [condition_of_paginated hpaged]
      cases c.rows with
      | error f => rfl
      | ok rows => exact ⟨c, rfl, choosesAs_of_rows hpaged table rows⟩
    | false =>
      rw [rows_of_not_paginated hpaged, condition_of_not_paginated hpaged]
      cases hwritten : c.conjuncts with
      | error f => rfl
      | ok fragments => exact ⟨c, rfl, choosesAs_of_conjuncts hpaged hwritten table⟩

/-- The read and the removal of the rows of a query are both rendered, with the same text of the
clauses and the same parameters, or both fail alike. Each operation sends its statement as it is
rendered. -/
theorem removal_follows_read (table : String) (query : Value) :
    (match read table query, removal table query with
      | .ok r, .ok d => ∃ c, empty.compile query = .ok c ∧ ChoosesAs table c d r
      | .error f, .error g => f = g
      | _, _ => False) ∧
    ∀ {σ : Type} (answer : Executor σ) (w : World σ) (dbg : Bool)
      (source : Adapter.MapperSource) (m : Schema.Mapper), source.resolve = .ok m →
      m.tableName = table → w.registry.known.contains (.text table) = true →
      (((Adapter.Operation.findAll query).task dbg source).run answer w).2.calls =
          w.calls ++ Adapter.sent (read table query) ∧
        (((Adapter.Operation.destroyAll query).task dbg source).run answer w).2.calls =
          w.calls ++ Adapter.sent (removal table query) := by
  constructor
  · exact choosesAs_or_fail table query
  · rintro σ answer w dbg source m hm rfl hknown
    constructor
    · exact Adapter.calls_of_query hm hknown (fun r => Adapter.quiet_report _ _ _ _) dbg _ query
    · exact Adapter.calls_of_query hm hknown (fun r => Adapter.quiet_report _ _ _ _) dbg _ query

end SqlBridge.Criteria
