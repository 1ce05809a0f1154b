import SqlBridge.Adapter.Session
import SqlBridge.Proofs.Adapter.Sending
import SqlBridge.Proofs.Query.Condition
import SqlBridge.Proofs.Query.Levels
import SqlBridge.Proofs.Query.Rows

/-!
Reads under plain queries. The conditions on columns are a function of the levels of a query. The
reads are always rendered, each condition with its own operands as parameters and the page last, for
any names of the columns.
-/

namespace SqlBridge

open Sql

namespace Criteria

/-- The recognised conditions of a level, in the order of its fields. -/
def Level.conditions (level : Level) : List Condition := level.fields.flatMap fieldConditions

/-- The conditions of all levels, those of the deepest level first. -/
def conditionsOf (levels : List Level) : List Condition := levels.reverse.flatMap Level.conditions

/-- A limit or offset that is null or a whole number. -/
def IsCount (v : Value) : Prop := v = .null ∨ ∃ n, v = .int n

/-- An order entry with a plain name: the name alone, or a pair of it and a direction. -/
def IsPlainOrder (entry : Value) : Prop :=
  (∃ name, entry = .text name ∧ isPlainName name = true) ∨
    entry.isText = false ∧
      ∃ name direction, entry.members? = some [.text name, direction] ∧ isPlainName name = true

/-- A level with plain names of columns, fitting conditions, and limits and offsets that are null or
whole numbers. -/
structure Level.Plain (level : Level) : Prop where
  limit : ∀ v, level.limit = some v → IsCount v
  offset : ∀ v, level.offset = some v → IsCount v
  order : ∀ v, level.order = some v → v.truthy = true →
    ∃ entries, v.members? = some entries ∧ ∀ entry ∈ entries, IsPlainOrder entry
  columns : ∀ field ∈ level.fields, ∃ name, field.1 = .text name ∧ isPlainName name = true
  fits : ∀ condition ∈ level.conditions, condition.Fits

namespace Level

/-- The order entries of a plain level are columns with names. -/
theorem exists_orders_eq {level : Level} (h : level.Plain) :
    ∃ orders, level.orders = .ok orders ∧ ∀ o ∈ orders, ∃ name, o.column = .named name := by
  unfold orders
  cases horder : level.order with
  | none => exact ⟨[], rfl, by simp⟩
  | some v =>
    cases hne : v.truthy with
    | false => exact ⟨[], by simp [orderEntries, hne], by simp⟩
    | true =>
      obtain ⟨entries, hentries, hplain⟩ := h.order v horder hne
      have hread : ∀ entry ∈ entries,
          ∃ o, orderEntry entry = .ok o ∧ ∃ name, o.column = .named name := by
        intro entry hentry
        rcases hplain entry hentry with ⟨name, rfl, -⟩ | ⟨htext, name, direction, hmembers, -⟩
        · exact ⟨⟨.named name, false⟩, rfl, name, rfl⟩
        · refine ⟨⟨.named name, isDescending direction⟩, ?_, name, rfl⟩
          unfold orderEntry
          cases entry <;> simp_all [Value.isText, ColumnName.ofValue]
      obtain ⟨orders, horders, hnamed⟩ := Outcome.exists_mapM_eq_ok hread
      exact ⟨orders, by simp [orderEntries, hne, hentries, horders], hnamed⟩

end Level

theorem isCount_deepest {start : Value} {given : List (Option Value)} (hstart : IsCount start)
    (h : ∀ own ∈ given, ∀ v, own = some v → IsCount v) : IsCount (deepest start given) := by
  induction given generalizing start with
  | nil => exact hstart
  | cons own rest ih =>
    have hown : IsCount (own.getD start) := by
      cases own with
      | none => exact hstart
      | some v => exact h (some v) List.mem_cons_self v rfl
    exact ih hown fun other hother => h other (List.mem_cons_of_mem own hother)

/-- A query with plain levels compiles to the predicates of its conditions. -/
theorem exists_compile_of_plain {query : Value} {ls : List Level}
    (hlevels : levels query = .ok ls) (hplain : ∀ level ∈ ls, level.Plain) :
    ∃ c, empty.compile query = .ok c ∧
      c.predicates = (conditionsOf ls).map Condition.predicate ∧
      (∀ o ∈ c.order, ∃ name, o.column = .named name) ∧
      c.limit = deepest .null (ls.map (·.limit)) ∧
      c.offset = deepest .null (ls.map (·.offset)) := by
  have hpredicates : ls.mapM Level.predicates =
      .ok (ls.map fun level => level.conditions.map Condition.predicate) :=
    Outcome.mapM_eq_ok_of_forall fun level hlevel =>
      fieldsPredicates_eq level.fields (hplain level hlevel).columns (hplain level hlevel).fits
  obtain ⟨orders, horders, hnamed⟩ := Outcome.exists_mapM_eq_ok
    fun level hlevel => Level.exists_orders_eq (hplain level hlevel)
  refine ⟨_, (compile_eq_ok_iff query empty _).mpr
    ⟨ls, _, orders, hlevels, hpredicates, horders, rfl⟩, ?_, ?_, rfl, rfl⟩
  · simp [extend, empty, conditionsOf, List.flatMap, List.map_flatten, Function.comp_def]
  · intro o ho
    obtain ⟨own, hown, hmem⟩ := List.mem_flatten.mp (show o ∈ orders.flatten from ho)
    exact hnamed own hown o hmem

/-- The parameters of a page: none without limit and offset, else both with their defaults. -/
def windowParams : Value → Value → List Value
  | .null, .null => []
  | .null, offset => [.int (-1), offset]
  | limit, .null => [limit, .int 0]
  | limit, offset => [limit, offset]

def windowText (limit offset : Value) : String :=
  if limit.isNull ∧ offset.isNull then "" else "\n LIMIT ? OFFSET ?"

theorem counts_windowText (limit offset : Value) :
    Counts (windowText limit offset) (windowParams limit offset).length := by
  have hnone : Counts "" 0 := by decide
  have hboth : Counts "\n LIMIT ? OFFSET ?" 2 := by decide
  cases limit <;> cases offset <;> first | exact hnone | exact hboth

/-- A page of whole numbers is rendered with its parameters, after any names. -/
theorem exists_page_of_isCount {c : Criteria} (hlimit : IsCount c.limit)
    (hoffset : IsCount c.offset) : ∃ page, c.page = .ok page ∧ ∀ before, ∃ f after,
      page.render ⟨[], before⟩ = .ok (f, ⟨[], after⟩) ∧
        f.values = ⟨windowText c.limit c.offset, windowParams c.limit c.offset⟩ := by
  obtain ⟨predicates, order, limit, offset⟩ := c
  rcases hlimit with rfl | ⟨n, rfl⟩ <;> rcases hoffset with rfl | ⟨k, rfl⟩
  · exact ⟨⟨none, none⟩, rfl, fun before => ⟨_, before, rfl, rfl⟩⟩
  · refine ⟨⟨none, some k⟩, rfl, fun before => ?_⟩
    simp only [Page.render, Binds.next_free, Outcome.ok_bind, Outcome.pure_eq_ok]
    exact ⟨_, _, rfl, by simp [Fragment.values, Slot.named, windowText, windowParams, Value.isNull]⟩
  · refine ⟨⟨some n, none⟩, rfl, fun before => ?_⟩
    simp only [Page.render, Binds.next_free, Outcome.ok_bind, Outcome.pure_eq_ok]
    exact ⟨_, _, rfl, by simp [Fragment.values, Slot.named, windowText, windowParams, Value.isNull]⟩
  · refine ⟨⟨some n, some k⟩, rfl, fun before => ?_⟩
    simp only [Page.render, Binds.next_free, Outcome.ok_bind, Outcome.pure_eq_ok]
    exact ⟨_, _, rfl, by simp [Fragment.values, Slot.named, windowText, windowParams, Value.isNull]⟩

theorem exists_orderClause_of_named {orders : List Sql.Order}
    (h : ∀ o ∈ orders, ∃ name, o.column = .named name) :
    ∃ text, orderClause orders = .ok text ∧ Counts text 0 := by
  have hwritten : ∀ o ∈ orders, ∃ text, o.render = .ok text ∧ Counts text 0 := by
    intro o ho
    obtain ⟨name, hname⟩ := h o ho
    have hdirection : Counts (if o.descending then " DESC" else " ASC") 0 := by
      cases o.descending <;> decide
    refine ⟨_, ?_, (counts_identifier name).append hdirection⟩
    unfold Order.render
    rw [hname]
    rfl
  obtain ⟨texts, htexts, hcounts⟩ := Outcome.exists_mapM_eq_ok hwritten
  have hlist :
      (Fragment.join ", " (texts.map (Fragment.ofText : String → Fragment Value))).Aligned := by
    refine Fragment.aligned_join (by decide) fun f hf => ?_
    obtain ⟨text, htext, rfl⟩ := List.mem_map.mp hf
    exact Fragment.aligned_ofText (hcounts text htext)
  have hjoined : Counts (", ".intercalate texts) 0 := by
    simpa [Fragment.Aligned, Fragment.text_join, Fragment.params_join, Function.comp_def,
      List.flatMap_map] using hlist
  have hlead : Counts " ORDER BY " 0 := by decide
  refine ⟨if texts.isEmpty then "" else " ORDER BY " ++ ", ".intercalate texts, ?_, ?_⟩
  · unfold orderClause
    rw [htexts]
    rfl
  · split
    · decide
    · exact hlead.append hjoined

theorem counts_columns {projection : Projection} {columns : String}
    (h : projection.render = .ok columns) : Counts columns 0 := by
  cases projection with
  | everything =>
    cases h
    decide
  | rowId =>
    cases h
    decide
  | count =>
    cases h
    decide
  | sum column =>
    have hopen : Counts "sum(" 0 := by decide
    have hclose : Counts ") AS sum" 0 := by decide
    cases column with
    | named name =>
      cases h
      exact (hopen.append (counts_identifier name)).append hclose
    | _ => simp [Projection.render, ColumnName.render] at h

/-- The operations that read under a query, with their projections. -/
inductive Reads (query : Value) : Adapter.Operation → Projection → Prop
  | findAll : Reads query (.findAll query) .everything
  | count : Reads query (.count query) .count
  | sum (field : String) : Reads query (.sum (.text field) query) (.sum (.named field))

/-- With a known table, the statement of a read is its only call. -/
theorem calls_of_reads {query : Value} {o : Adapter.Operation} {projection : Projection}
    (hreads : Reads query o projection) {source : Adapter.MapperSource} {m : Schema.Mapper}
    (hm : source.resolve = .ok m) {σ : Type} (answer : Executor σ) (w : World σ) (dbg : Bool)
    (hknown : w.registry.known.contains (.text m.tableName) = true) :
    ((o.task dbg source).run answer w).2.calls = w.calls ++
      Adapter.sent (empty.compile query >>= fun c =>
        (c.select projection m.tableName).map Statement.select >>= fun s => s.render) := by
  cases hreads with
  | findAll =>
    exact Adapter.calls_of_query hm hknown (fun r =>
      Adapter.quiet_report _ _ _ _) dbg _ query
  | count =>
    exact Adapter.calls_of_query hm hknown (fun r =>
      Adapter.quiet_report _ _ _ _) dbg _ query
  | sum field =>
    exact Adapter.calls_of_query hm hknown (fun r =>
      Adapter.quiet_report _ _ _ _) dbg _ query

/-- The limit and the offset that apply. -/
def limitOf (ls : List Level) : Value := deepest .null (ls.map (·.limit))

def offsetOf (ls : List Level) : Value := deepest .null (ls.map (·.offset))

/-- The parameters of a read: the operands of its conditions, then those of its page. -/
def readParams (ls : List Level) : List Value :=
  (conditionsOf ls).flatMap Condition.operands ++ windowParams (limitOf ls) (offsetOf ls)

/-- The text of a read with the given columns and order. -/
def readText (columns table : String) (ls : List Level) (order : String) : String :=
  "SELECT " ++ columns ++ " \nFROM " ++ identifier table ++ whereText " \nWHERE " (conditionsOf ls)
    ++ order ++ windowText (limitOf ls) (offsetOf ls)

theorem isCount_deepest_of_plain {ls : List Level} {pick : Level → Option Value}
    (h : ∀ level ∈ ls, ∀ v, pick level = some v → IsCount v) :
    IsCount (deepest .null (ls.map pick)) := by
  refine isCount_deepest (Or.inl rfl) fun own hown v hv => ?_
  obtain ⟨level, hlevel, rfl⟩ := List.mem_map.mp hown
  exact h level hlevel v hv

/-- Every condition of a plain level is on a column with a plain name. -/
theorem Level.isPlainName_of_conditions {level : Level} (h : level.Plain) {condition : Condition}
    (hmem : condition ∈ level.conditions) : isPlainName condition.column = true := by
  obtain ⟨field, hfield, hown⟩ := List.mem_flatMap.mp hmem
  obtain ⟨name, hname, hplain⟩ := h.columns field hfield
  obtain ⟨key, v⟩ := field
  cases hname
  cases v with
  | object conditions =>
    obtain ⟨entry, -, hentry⟩ := List.mem_filterMap.mp hown
    obtain ⟨operator, -, rfl⟩ := Option.map_eq_some_iff.mp hentry
    exact hplain
  | _ => simp [fieldConditions] at hown

theorem mem_conditionsOf {ls : List Level} {condition : Condition}
    (h : condition ∈ conditionsOf ls) : ∃ level ∈ ls, condition ∈ level.conditions := by
  obtain ⟨level, hlevel, hown⟩ := List.mem_flatMap.mp h
  exact ⟨level, List.mem_reverse.mp hlevel, hown⟩

/-- A read under plain levels is rendered with the operands of its conditions in order. -/
theorem exists_render_of_plain {query : Value} {ls : List Level}
    (hlevels : levels query = .ok ls) (hplain : ∀ level ∈ ls, level.Plain)
    {projection : Projection} {columns : String} (hcolumns : projection.render = .ok columns)
    (table : String) :
    ∃ c order, empty.compile query = .ok c ∧ orderClause c.order = .ok order ∧ Counts order 0 ∧
      ((c.select projection table).map Statement.select >>= fun s => s.render) =
        .ok ⟨readText columns table ls order, readParams ls⟩ := by
  obtain ⟨c, hcompile, hpredicates, hnamed, hlimit, hoffset⟩ :=
    exists_compile_of_plain hlevels hplain
  obtain ⟨order, horder, horderCount⟩ := exists_orderClause_of_named hnamed
  have hfits : ∀ condition ∈ conditionsOf ls, condition.Fits := by
    intro condition hmem
    obtain ⟨level, hlevel, hown⟩ := mem_conditionsOf hmem
    exact (hplain level hlevel).fits condition hown
  have hnames : ∀ condition ∈ conditionsOf ls, isPlainName condition.column = true := by
    intro condition hmem
    obtain ⟨level, hlevel, hown⟩ := mem_conditionsOf hmem
    exact Level.isPlainName_of_conditions (hplain level hlevel) hown
  have hlimitCount : IsCount c.limit := by
    rw [hlimit]
    exact isCount_deepest_of_plain fun level hlevel => (hplain level hlevel).limit
  have hoffsetCount : IsCount c.offset := by
    rw [hoffset]
    exact isCount_deepest_of_plain fun level hlevel => (hplain level hlevel).offset
  obtain ⟨page, hpage, hpageRender⟩ := exists_page_of_isCount hlimitCount hoffsetCount
  obtain ⟨fragments, middle, hconditions, hfragments⟩ :=
    renderPredicates_eq (conditionsOf ls) hfits hnames []
  obtain ⟨window, after, hwindow, hwindowValues⟩ := hpageRender middle
  have hcheck : ∀ p ∈ c.predicates, p.check = .ok () := by
    rw [hpredicates]
    intro p hp
    obtain ⟨condition, hmem, rfl⟩ := List.mem_map.mp hp
    exact Condition.check_predicate (hfits condition hmem)
  have hclauses : rowClauses ⟨[], []⟩ c.predicates c.order page =
      .ok (whereClause " \nWHERE " fragments ++ Fragment.ofText order ++ window,
        ⟨[], after⟩) := by
    unfold rowClauses
    rw [hpredicates, hconditions, horder]
    simp only [Outcome.ok_bind, hwindow]
    rfl
  refine ⟨c, order, hcompile, horder, horderCount, ?_⟩
  rw [read_eq c table hcolumns, rows, hpage]
  simp only [Outcome.ok_bind, hclauses, Outcome.forM_eq_ok_of_forall hcheck,
    Outcome.pure_eq_ok, Outcome.map_ok, Fragment.values_append, values_whereClause, hfragments,
    hwindowValues, Fragment.values_ofText]
  rw [whereClause_eq, hlimit, hoffset]
  simp [readLead, Fragment.ofText, Fragment.mk_append_mk, readText, readParams, limitOf, offsetOf,
    String.append_assoc]

/-- The text has as many placeholders as there are parameters. -/
theorem counts_readText {columns order : String} (hcolumns : Counts columns 0)
    (horder : Counts order 0) (table : String) (ls : List Level) :
    Counts (readText columns table ls order) (readParams ls).length := by
  have hselect : Counts "SELECT " 0 := by decide
  have hfrom : Counts " \nFROM " 0 := by decide
  have hwhere : Counts " \nWHERE " 0 := by decide
  have h := (((((hselect.append hcolumns).append hfrom).append (counts_identifier table)).append
    (counts_whereText hwhere (conditionsOf ls))).append horder).append
    (counts_windowText (limitOf ls) (offsetOf ls))
  simpa [readText, readParams] using h

/-- Reads under a query with plain levels are rendered, and sent as they are rendered. Each
condition has its own placeholders and its own operands as parameters, in the order of the text; the
parameters of the page come last. -/
theorem reads_aligned {query : Value} {ls : List Level} (hlevels : levels query = .ok ls)
    (hplain : ∀ level ∈ ls, level.Plain) {o : Adapter.Operation} {projection : Projection}
    (hreads : Reads query o projection) (m : Schema.Mapper) :
    ∃ c columns order, empty.compile query = .ok c ∧ projection.render = .ok columns ∧
      orderClause c.order = .ok order ∧
      ((c.select projection m.tableName).map Statement.select >>= fun s => s.render) =
        .ok ⟨readText columns m.tableName ls order, readParams ls⟩ ∧
      placeholderCount (readText columns m.tableName ls order) = (readParams ls).length ∧
      (∀ condition ∈ conditionsOf ls,
        placeholderCount condition.text = condition.operands.length) ∧
      ∀ {σ : Type} (answer : Executor σ) (w : World σ) (dbg : Bool)
        (source : Adapter.MapperSource), source.resolve = .ok m →
        w.registry.known.contains (.text m.tableName) = true →
        ((o.task dbg source).run answer w).2.calls =
          w.calls ++ [⟨readText columns m.tableName ls order, readParams ls⟩] := by
  have hcolumns : ∃ columns, projection.render = .ok columns := by
    cases hreads with
    | findAll => exact ⟨_, rfl⟩
    | count => exact ⟨_, rfl⟩
    | sum field => exact ⟨_, rfl⟩
  obtain ⟨columns, hcolumns⟩ := hcolumns
  obtain ⟨c, order, hcompile, horder, horderCount, hwritten⟩ :=
    exists_render_of_plain hlevels hplain hcolumns m.tableName
  refine ⟨c, columns, order, hcompile, hcolumns, horder, hwritten, ?_, ?_, ?_⟩
  · exact (counts_readText (counts_columns hcolumns) horderCount m.tableName ls).1
  · intro condition _
    exact condition.counts_text.1
  · intro σ answer w dbg source hm hknown
    rw [calls_of_reads hreads hm answer w dbg hknown, hcompile, Outcome.ok_bind, hwritten]
    rfl

/-- The inner level of a query in which numbered names of one column are names of others. -/
def crossingFields : Fields Value :=
  [("a", .object [("in", .list [.int 1, .text "x"]), (">", .int 3)]),
    ("a_1", .object [("==", .text "v"), ("like", .int 0)])]

def crossingQuery : Value :=
  .object
    [("orderBy", .list [.text "b", .list [.text "param", .text "DESC"]]),
      ("offset", .int 2), ("limit", .null), ("where", .object crossingFields),
      ("a_1_1", .object [("notIn", .list [])])]

def crossingLevels : List Level :=
  [⟨some .null, some (.int 2), some (.list [.text "b", .list [.text "param", .text "DESC"]]),
      some (.object crossingFields), [(.text "a_1_1", .object [("notIn", .list [])])]⟩,
    ⟨none, none, none, none, crossingFields.map fun (name, v) => (.text name, v)⟩]

theorem levels_crossingQuery : levels crossingQuery = .ok crossingLevels := by
  have hinner : levels (.object crossingFields) = .ok [Level.ofEntries
      (crossingFields.map fun (name, v) => (.text name, v))] := by
    rw [levels_eq rfl]
    rfl
  rw [levels_eq rfl]
  change (levels (.object crossingFields)).map _ = _
  rw [hinner]
  rfl

theorem crossingLevels_plain : ∀ level ∈ crossingLevels, level.Plain := by
  intro level hlevel
  rcases List.mem_cons.mp hlevel with rfl | hlevel
  · refine ⟨?_, ?_, ?_, ?_, ?_⟩
    · rintro v ⟨⟩
      exact Or.inl rfl
    · rintro v ⟨⟩
      exact Or.inr ⟨2, rfl⟩
    · rintro v ⟨⟩ -
      refine ⟨_, rfl, fun entry hentry => ?_⟩
      rcases List.mem_cons.mp hentry with rfl | hentry
      · exact Or.inl ⟨"b", rfl, by decide⟩
      · rw [List.mem_singleton] at hentry
        rw [hentry]
        exact Or.inr ⟨rfl, "param", .text "DESC", rfl, by decide⟩
    · intro field hfield
      rw [List.mem_singleton.mp hfield]
      exact ⟨"a_1_1", rfl, by decide⟩
    · intro condition hcondition
      rw [List.mem_singleton.mp hcondition]
      exact ⟨[], rfl, by simp⟩
  · rw [List.mem_singleton.mp hlevel]
    refine ⟨by rintro v ⟨⟩, by rintro v ⟨⟩, by rintro v ⟨⟩, ?_, ?_⟩
    · intro field hfield
      rcases List.mem_cons.mp hfield with rfl | hfield
      · exact ⟨"a", rfl, by decide⟩
      · rw [List.mem_singleton.mp hfield]
        exact ⟨"a_1", rfl, by decide⟩
    · intro condition hcondition
      rcases List.mem_cons.mp hcondition with rfl | hcondition
      · exact ⟨[.int 1, .text "x"], rfl, by simp [Value.isScalar]⟩
      · rcases List.mem_cons.mp hcondition with rfl | hcondition
        · exact rfl
        · rw [List.mem_singleton.mp hcondition]
          exact rfl

/-- The operands stay with their conditions although numbered names of their columns are names of
other columns. -/
theorem reads_aligned_crossingQuery :
    levels crossingQuery = .ok crossingLevels ∧ (∀ level ∈ crossingLevels, level.Plain) ∧
      Reads crossingQuery (.sum (.text "a_1_2") crossingQuery) (.sum (.named "a_1_2")) ∧
      ∃ text, (((Adapter.Operation.sum (.text "a_1_2") crossingQuery).task false
          (.described (.text "User"))).run Remote.Script.answer
          (Adapter.newWorld ⟨[], none, []⟩ true false ["user"])).2.calls =
        [⟨text, [.int 1, .text "x", .int 3, .text "v", .int (-1), .int 2]⟩] ∧
        placeholderCount text = 6 := by
  refine ⟨levels_crossingQuery, crossingLevels_plain, .sum "a_1_2", ?_⟩
  obtain ⟨c, columns, order, -, -, -, -, hcount, -, hcalls⟩ :=
    reads_aligned levels_crossingQuery crossingLevels_plain (.sum "a_1_2")
      (Schema.Mapper.ofName "User")
  exact ⟨_, hcalls Remote.Script.answer _ false (.described (.text "User")) rfl (by decide), hcount⟩

end Criteria

end SqlBridge
