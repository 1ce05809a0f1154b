import SqlBridge.Proofs.Query.Condition
import SqlBridge.Proofs.Query.Removal
import SqlBridge.Proofs.Sql.Name

/-!
Changes compared with reads. A change has the condition of the removal under the same query, after
the values of its columns. If a column has the name of a parameter of the condition, the change
cannot be rendered though the read can; for every other set of columns it is rendered, and its
parameters are the values of the columns followed by the parameters of the read.
-/

namespace SqlBridge

open Sql

namespace Criteria

/-- The bases of the parameter names of a read under the criteria. -/
def bases (c : Criteria) : List String :=
  c.predicates.flatMap Predicate.bases ++
    if c.limit.isNull ∧ c.offset.isNull then [] else ["param", "param"]

/-- The parameter names of a read under the criteria, in order. -/
def parameterNames (c : Criteria) : List String := numberedFrom [] c.bases

theorem pageNumber_eq_none_iff {v : Value} {n : Option Int} (h : pageNumber v = .ok n) :
    n = none ↔ v.isNull = true := by
  unfold pageNumber at h
  split at h
  · cases h
    simp [Value.isNull]
  · next hne =>
    obtain ⟨k, -, rfl⟩ := Outcome.map_eq_ok_iff.mp h
    cases v <;> simp_all [Value.isNull]

theorem bases_page {c : Criteria} {page : Page} (h : c.page = .ok page) :
    page.bases = if c.limit.isNull ∧ c.offset.isNull then [] else ["param", "param"] := by
  obtain ⟨limit, hlimit, hrest⟩ := Outcome.bind_eq_ok_iff.mp h
  obtain ⟨offset, hoffset, hpage⟩ := Outcome.bind_eq_ok_iff.mp hrest
  cases hpage
  have hnone := pageNumber_eq_none_iff hlimit
  have hnone' := pageNumber_eq_none_iff hoffset
  simp only [← hnone, ← hnone']
  cases limit <;> cases offset <;> rfl

/-- A change has the parameter names of the read. -/
theorem bases_scope {c : Criteria} {table : String} {scope : Scope}
    (h : c.scope table = .ok scope) : scope.bases = c.bases := by
  unfold Criteria.scope at h
  split at h
  · obtain ⟨rows, hrows, rfl⟩ := Outcome.map_eq_ok_iff.mp h
    obtain ⟨page, hpage, hselection⟩ := Outcome.bind_eq_ok_iff.mp hrows
    cases hselection
    simp only [Scope.bases, Selection.bases, bases, bases_page hpage]
  · next hpaged =>
    obtain ⟨hlimit, hoffset, -⟩ := (paginated_eq_false_iff c).mp (by simpa using hpaged)
    unfold bases
    rw [hlimit, hoffset]
    split at h
    · next hnone =>
      cases h
      rw [List.isEmpty_iff.mp hnone]
      rfl
    · cases h
      simp [Scope.bases, Value.isNull]

/-- A change has the condition of a removal, unless a column has the name of a parameter. -/
theorem change_eq {c : Criteria} {table : String} {condition : Fragment Value}
    (h : c.condition table = .ok condition) {assignments : Fields Value}
    (hdistinct : assignments.keys.Nodup)
    (hplain : ∀ name ∈ assignments.keys, isPlainBind name = true) :
    ((c.scope table).map (Statement.update table assignments) >>= fun s => s.render) =
      (checkNames assignments.keys c.parameterNames).map fun _ =>
        Fragment.ofText ("UPDATE " ++ identifier table ++ " SET ")
          ++ Fragment.join ", " (assignments.map fun field => (assignment field).values)
          ++ condition := by
  obtain ⟨scope, hscope, hrest⟩ := Outcome.bind_eq_ok_iff.mp h
  obtain ⟨written, hwritten, hchecked⟩ := Outcome.bind_eq_ok_iff.mp hrest
  obtain ⟨u, hcheck, hresult⟩ := Outcome.bind_eq_ok_iff.mp hchecked
  cases hresult
  rw [hscope, Outcome.map_ok, Outcome.ok_bind, Statement.render_update hdistinct hplain,
    Scope.render_eq hwritten, bases_scope hscope, hcheck, parameterNames]
  cases checkNames assignments.keys (numberedFrom [] c.bases) <;> rfl

/-- The condition of a change has the parameters of the clauses of a read. -/
theorem exists_condition_of_rows {c : Criteria} {rows : Fragment Value} (h : c.rows = .ok rows)
    (table : String) :
    ∃ condition, c.condition table = .ok condition ∧ condition.params = rows.params := by
  cases hpaged : c.paginated with
  | true =>
    rw [condition_of_paginated hpaged, h]
    exact ⟨_, rfl, by simp [readLead]⟩
  | false =>
    rw [rows_of_not_paginated hpaged] at h
    obtain ⟨fragments, hwritten, rfl⟩ := Outcome.map_eq_ok_iff.mp h
    rw [condition_of_not_paginated hpaged, hwritten]
    refine ⟨_, rfl, ?_⟩
    cases fragments <;> rfl

end Criteria

namespace Adapter

theorem changeColumns_object (fields : Fields Value) :
    changeColumns (.object fields) = .ok () := by
  unfold changeColumns
  rw [members?_object]
  apply Outcome.forM_eq_ok_of_forall
  intro v hv
  obtain ⟨name, -, rfl⟩ := List.mem_map.mp hv
  rfl

theorem updateAllStatement_eq (m : Schema.Mapper) (fields : Fields Value) (query : Value) :
    updateAllStatement m (.object fields) query = Criteria.empty.compile query >>= fun c =>
      (c.scope m.tableName).map (Statement.update m.tableName (boundFields fields)) := by
  unfold updateAllStatement
  rw [changeColumns_object, Outcome.ok_bind]
  cases Criteria.empty.compile query with
  | error f => rfl
  | ok c => cases hscope : c.scope m.tableName <;> simp [changes, hscope]

/-- The text of a change with its condition. -/
def changeText (table : String) (names : List String) (condition : String) : String :=
  "UPDATE " ++ identifier table ++ " SET " ++
    ", ".intercalate (names.map fun name => written name ++ "=?") ++ condition

/-- The values of the columns of a change. -/
def changeParams (fields : Fields Value) : List Value := fields.map fun (_, v) => bound v

/-- A plain column is rendered with a placeholder, in the order of the record. -/
theorem change_fragment_eq (table : String) {fields : Fields Value}
    (hplain : ∀ name ∈ fields.keys, isPlainName name = true) (condition : Fragment Value) :
    Fragment.ofText ("UPDATE " ++ identifier table ++ " SET ")
        ++ Fragment.join ", " ((boundFields fields).map fun field => (assignment field).values)
        ++ condition =
      ⟨changeText table fields.keys condition.text, changeParams fields ++ condition.params⟩ := by
  have hwritten : ∀ field ∈ fields,
      (assignment (field.1, bound field.2)).values.text = written field.1 ++ "=?" := by
    intro field hfield
    have hname := hplain field.1 (List.mem_map_of_mem hfield)
    simp only [assignment, Fragment.text_values, Fragment.text_append, Fragment.text_ofText,
      placeholder, identifier_of_isPlainName hname, String.append_assoc]
    rfl
  have htext :
      (Fragment.join ", " ((boundFields fields).map fun field => (assignment field).values)).text =
        ", ".intercalate (fields.keys.map fun name => written name ++ "=?") := by
    rw [Fragment.text_join, boundFields, Fields.keys, List.map_map, List.map_map, List.map_map]
    exact congrArg _ (List.map_congr_left hwritten)
  have hparams :
      (Fragment.join ", "
        ((boundFields fields).map fun field => (assignment field).values)).params =
        changeParams fields := by
    rw [Fragment.params_join, boundFields, List.map_map, List.flatMap_map, changeParams]
    simp [assignment, placeholder, Slot.named, List.map_eq_flatMap]
  change (⟨_ ++ (Fragment.join ", " _).text ++ _, [] ++ (Fragment.join ", " _).params ++ _⟩ :
    Fragment Value) = _
  rw [htext, hparams]
  rfl

/-- No name of a condition is the name of a changed column. -/
def Free (names : List String) (fields : Fields Value) : Prop :=
  ∀ name ∈ names, name ∉ fields.keys

/-- A change of plain columns is rendered exactly when no name clashes. -/
theorem change_eq_ok_iff {c : Criteria} {table : String} {condition : Fragment Value}
    (h : c.condition table = .ok condition) {fields : Fields Value} (hdistinct : fields.keys.Nodup)
    (hplain : ∀ name ∈ fields.keys, isPlainName name = true) (f : Fragment Value) :
    ((c.scope table).map (Statement.update table (boundFields fields)) >>= fun s => s.render) =
        .ok f ↔
      Free c.parameterNames fields ∧
        f = ⟨changeText table fields.keys condition.text,
          changeParams fields ++ condition.params⟩ := by
  have hbinds : ∀ name ∈ (boundFields fields).keys, isPlainBind name = true := by
    intro name hname
    rw [keys_boundFields] at hname
    exact isPlainBind_of_isPlainName (hplain name hname)
  have hcolumns : (boundFields fields).keys.Nodup := by rwa [keys_boundFields]
  rw [Criteria.change_eq h hcolumns hbinds, change_fragment_eq table hplain, keys_boundFields,
    Outcome.map_eq_ok_iff]
  constructor
  · rintro ⟨u, hnames, rfl⟩
    exact ⟨(checkNames_eq_ok_iff fields.keys c.parameterNames).mp hnames, rfl⟩
  · rintro ⟨hfree, rfl⟩
    exact ⟨(), (checkNames_eq_ok_iff fields.keys c.parameterNames).mpr hfree, rfl⟩

/-- A change under a query whose read is rendered. -/
theorem updateAllStatement_eq_ok_iff {m : Schema.Mapper} {query : Value} {r : Fragment Value}
    (hread : Criteria.read m.tableName query = .ok r) {fields : Fields Value}
    (hdistinct : fields.keys.Nodup)
    (hplain : ∀ name ∈ fields.keys, isPlainName name = true) :
    ∃ c condition, Criteria.empty.compile query = .ok c ∧
      c.condition m.tableName = .ok condition ∧
      ∀ f, (updateAllStatement m (.object fields) query >>= fun s => s.render) = .ok f ↔
        Free c.parameterNames fields ∧
          f = ⟨changeText m.tableName fields.keys condition.text,
            changeParams fields ++ r.params⟩ := by
  obtain ⟨c, hcompile, -⟩ := Outcome.bind_eq_ok_iff.mp hread
  rw [Criteria.read_of_compile hcompile] at hread
  obtain ⟨rows, hrows, rfl⟩ := Outcome.map_eq_ok_iff.mp hread
  obtain ⟨condition, hcondition, hparams⟩ :=
    Criteria.exists_condition_of_rows hrows m.tableName
  refine ⟨c, condition, hcompile, hcondition, fun f => ?_⟩
  rw [updateAllStatement_eq, hcompile, Outcome.ok_bind,
    change_eq_ok_iff hcondition hdistinct hplain, hparams]
  rfl

/-- The criteria for the identified record. -/
def identity (m : Schema.Mapper) (id : Value) : Criteria :=
  ⟨[.compare (.named m.idAttribute) .equal id], [], .null, .null⟩

theorem condition_identity (m : Schema.Mapper) (id : Value)
    (hplain : isPlainName m.idAttribute = true) :
    (identity m id).condition m.tableName =
      .ok ⟨" WHERE " ++ written m.idAttribute ++ " = ?", [id]⟩ := by
  have htext : " WHERE " ++ (identifier m.idAttribute ++ " " ++ "=" ++ " " ++ "?") =
      " WHERE " ++ written m.idAttribute ++ " = ?" := by
    simp [identifier_of_isPlainName hplain, String.append_assoc]
  rw [Criteria.condition_of_not_paginated rfl, ← htext]
  rfl

theorem updateStatement_eq (m : Schema.Mapper) {id : Value} (hid : id.isScalar = true)
    (fields : Fields Value) :
    updateStatement m id (.object fields) = ((identity m id).scope m.tableName).map
      (Statement.update m.tableName (boundFields fields)) := by
  have hidentified : identified m id = .ok (.compare (.named m.idAttribute) .equal id) := by
    simp [identified, Criteria.comparison_of_isScalar hid]
  unfold updateStatement
  rw [changeColumns_object, hidentified]
  rfl

theorem parameterNames_identity (m : Schema.Mapper) (id : Value) :
    (identity m id).parameterNames = [bindBase m.idAttribute ++ "_1"] := by
  have hname : bindBase m.idAttribute ++ "_" ++ Decimal.natText 1 =
      bindBase m.idAttribute ++ "_1" := by
    rw [String.append_assoc]
    rfl
  change [_ ++ "_" ++ Decimal.natText 1] = _
  exact congrArg (· :: []) hname

theorem requireChanges_of_ne_nil (source : MapperSource) {fields : Fields Value}
    (hne : fields ≠ []) : requireChanges source (.object fields) = pure () := by
  unfold requireChanges
  cases fields with
  | nil => exact absurd rfl hne
  | cons field rest => rfl

/-- With a known table, the statement of a change under a query is its only call. -/
theorem calls_updateAll {σ : Type} {source : MapperSource} {m : Schema.Mapper}
    (hm : source.resolve = .ok m) {fields : Fields Value} (hne : fields ≠ []) (query : Value)
    (answer : Executor σ) (w : World σ) (dbg : Bool)
    (hknown : w.registry.known.contains (.text m.tableName) = true) :
    (((Operation.updateAll (.object fields) query).task dbg source).run answer w).2.calls =
      w.calls ++ sent (updateAllStatement m (.object fields) query >>= fun s => s.render) := by
  change ((requireChanges source (.object fields) >>= fun _ => _).run answer w).2.calls = _
  rw [requireChanges_of_ne_nil source hne, Task.run_bind_ok (Task.run_pure () w)]
  obtain ⟨opened, hcalls, hrun⟩ := exists_run_opening answer hm hknown dbg "_update_all"
    (fun m => [("mapper", .text m.name), ("props", .object fields), ("query", query)]) _
  rw [hrun, ← hcalls]
  exact calls_execute _ (fun r => quiet_report _ _ _ _) opened

/-- The first call of a change of one record is its statement. -/
theorem sent_prefix_update {σ : Type} {source : MapperSource} {m : Schema.Mapper}
    (hm : source.resolve = .ok m) {fields : Fields Value} (hne : fields ≠ []) (id : Value)
    (answer : Executor σ) (w : World σ) (dbg : Bool)
    (hknown : w.registry.known.contains (.text m.tableName) = true) :
    w.calls ++ sent (updateStatement m id (.object fields) >>= fun s => s.render) <+:
      (((Operation.update id (.object fields)).task dbg source).run answer w).2.calls := by
  change _ <+: ((requireChanges source (.object fields) >>= fun _ => _).run answer w).2.calls
  rw [requireChanges_of_ne_nil source hne, Task.run_bind_ok (Task.run_pure () w)]
  obtain ⟨opened, hcalls, hrun⟩ := exists_run_opening answer hm hknown dbg "_update"
    (fun m => [("mapper", .text m.name), ("id", id), ("props", .object fields)]) _
  rw [hrun, ← hcalls]
  exact sent_prefix_execute _ _ opened

/-- A change under a query is rendered whenever the read is, and a change of one record always,
unless a column has the name of a parameter of the condition. Its columns have the order of the
record, and its parameters are their values followed by the parameters of the read, or by the id.
Each operation sends its statement as it is rendered. -/
theorem changes_follow_read (m : Schema.Mapper) {fields : Fields Value} (hne : fields ≠ [])
    (hdistinct : fields.keys.Nodup)
    (hplain : ∀ name ∈ fields.keys, isPlainName name = true) :
    (∀ query r, Criteria.read m.tableName query = .ok r →
      ∃ c condition, Criteria.empty.compile query = .ok c ∧
        Criteria.removal m.tableName query =
          .ok (Fragment.ofText ("DELETE FROM " ++ identifier m.tableName) ++ condition) ∧
        ∀ f, (updateAllStatement m (.object fields) query >>= fun s => s.render) = .ok f ↔
          Free c.parameterNames fields ∧ f = ⟨changeText m.tableName fields.keys condition.text,
            changeParams fields ++ r.params⟩) ∧
    (∀ id, id.isScalar = true → isPlainName m.idAttribute = true →
      ∀ f, (updateStatement m id (.object fields) >>= fun s => s.render) = .ok f ↔
        Free [bindBase m.idAttribute ++ "_1"] fields ∧
          f = ⟨changeText m.tableName fields.keys (" WHERE " ++ written m.idAttribute ++ " = ?"),
            changeParams fields ++ [id]⟩) ∧
    ∀ {σ : Type} (answer : Executor σ) (w : World σ) (dbg : Bool) (source : MapperSource),
      source.resolve = .ok m → w.registry.known.contains (.text m.tableName) = true →
      (∀ query, (((Operation.updateAll (.object fields) query).task dbg source).run
          answer w).2.calls =
        w.calls ++ sent (updateAllStatement m (.object fields) query >>= fun s => s.render)) ∧
      ∀ id, w.calls ++ sent (updateStatement m id (.object fields) >>= fun s => s.render) <+:
        (((Operation.update id (.object fields)).task dbg source).run answer w).2.calls := by
  refine ⟨?_, ?_, ?_⟩
  · intro query r hread
    obtain ⟨c, condition, hcompile, hcondition, hiff⟩ :=
      updateAllStatement_eq_ok_iff hread hdistinct hplain
    refine ⟨c, condition, hcompile, ?_, hiff⟩
    rw [Criteria.removal_of_compile hcompile, hcondition, Outcome.map_ok]
  · intro id hid hidAttribute f
    rw [updateStatement_eq m hid,
      change_eq_ok_iff (condition_identity m id hidAttribute) hdistinct hplain,
      parameterNames_identity]
  · intro σ answer w dbg source hm hknown
    constructor
    · intro query
      exact calls_updateAll hm hne query answer w dbg hknown
    · intro id
      exact sent_prefix_update hm hne id answer w dbg hknown

/-- A record with an object and a null, where one of the names is reserved. -/
def mixedFields : Fields Value := [("b", .object [("k", .int 1)]), ("order", .null)]

def pagedQuery : Value :=
  .object [("limit", .int 2), ("a", .object [("in", .list [.int 1, .text "x"])])]

def users : Schema.Mapper := ⟨"User", "id", none, []⟩

/-- The values of the columns precede the parameters of a paged read, and an id. -/
theorem changes_follow_read_mixedFields :
    mixedFields ≠ [] ∧ mixedFields.keys.Nodup ∧
      (∀ name ∈ mixedFields.keys, isPlainName name = true) ∧
      Criteria.read users.tableName pagedQuery =
        .ok ⟨"SELECT * \nFROM user \nWHERE a IN (?, ?)\n LIMIT ? OFFSET ?",
          [.int 1, .text "x", .int 2, .int 0]⟩ ∧
      (∃ condition, (updateAllStatement users (.object mixedFields) pagedQuery >>=
        fun s => s.render) = .ok ⟨"UPDATE user SET b=?, \"order\"=?" ++ condition,
          [.text "\x7b\"k\": 1\x7d", .null, .int 1, .text "x", .int 2, .int 0]⟩) ∧
      (updateStatement users (.text "u") (.object mixedFields) >>= fun s => s.render) =
        .ok ⟨"UPDATE user SET b=?, \"order\"=? WHERE id = ?",
          [.text "\x7b\"k\": 1\x7d", .null, .text "u"]⟩ := by
  have hplain : ∀ name ∈ mixedFields.keys, isPlainName name = true := by decide
  have hread : Criteria.read users.tableName pagedQuery =
      .ok ⟨"SELECT * \nFROM user \nWHERE a IN (?, ?)\n LIMIT ? OFFSET ?",
        [.int 1, .text "x", .int 2, .int 0]⟩ := rfl
  have hdistinct : mixedFields.keys.Nodup := by decide
  obtain ⟨hchange, hone, -⟩ := changes_follow_read users (by simp [mixedFields]) hdistinct hplain
  obtain ⟨c, condition, hcompile, -, hiff⟩ := hchange pagedQuery _ hread
  cases hcompile
  refine ⟨by simp [mixedFields], hdistinct, hplain, hread, ⟨condition.text, ?_⟩, ?_⟩
  · refine (hiff _).mpr ⟨?_, rfl⟩
    unfold Free
    decide
  · refine (hone (.text "u") rfl (by decide) _).mpr ⟨?_, rfl⟩
    unfold Free
    decide

/-- A column named `a_1_1` and the first member of the list `a_1` are parameters of their own. -/
example : (updateAllStatement users (.object [("a_1_1", .int 7), ("a_1_2", .int 8)])
    (.object [("a", .object [("in", .list [.int 1, .int 2])])]) >>= fun s => s.render) =
      .ok ⟨"UPDATE user SET a_1_1=?, a_1_2=? WHERE a IN (?, ?)",
        [.int 7, .int 8, .int 1, .int 2]⟩ := rfl

/-- A column with the name of a parameter of the condition makes a change under a query fail
although its read is rendered, and likewise a change of one record. -/
theorem change_clashes :
    Criteria.read "user" (.object [("a", .object [("==", .int 3)])]) =
        .ok ⟨"SELECT * \nFROM user \nWHERE a = ?", [.int 3]⟩ ∧
      (updateAllStatement users (.object [("a_1", .int 5)])
        (.object [("a", .object [("==", .int 3)])]) >>= fun s => s.render) =
          .error (.bindClash "a_1") ∧
      (updateStatement ⟨"User", "a", none, []⟩ (.int 7) (.object [("a_1", .int 5)]) >>=
        fun s => s.render) = .error (.bindClash "a_1") :=
  ⟨rfl, rfl, rfl⟩

end Adapter

end SqlBridge
