import Mathlib.Algebra.Ring.Nat
import Mathlib.Data.List.Induction
import SqlBridge.Adapter.Session
import SqlBridge.Proofs.Adapter.Answering
import SqlBridge.Proofs.Adapter.Stored
import SqlBridge.Proofs.Fields
import SqlBridge.Proofs.Sql.Insertion

/-!
Insertion of records. Many records are inserted by one statement under the union of their names, in
the order of first occurrence; the row of a record holds the bound forms of its values, and nulls
under the names that it lacks. Records without any names are inserted as a single row of defaults,
so the number of added rows is the number of records unless there are several records and none has a
name.
-/

namespace SqlBridge

namespace Adapter

open Sql

/-- The names of all records, in the order of their first occurrence. -/
def recordColumns (records : List (Fields Value)) : List String :=
  (records.flatMap Fields.keys).eraseDups

/-- The rows of all records under their common columns. -/
def recordRows (records : List (Fields Value)) : List (List Value) :=
  records.map fun record => boundRow record (recordColumns records)

/-- The stored value of a record under a column: the bound form of its value, or null. -/
def cell (record : Fields Value) (column : String) : Value :=
  match record.get? column with
  | some v => bound v
  | none => .null

/-- The parameters of an insertion of records under columns, row by row. -/
structure LaidOut (records : List (Fields Value)) (columns : List String)
    (params : List Value) : Prop where
  length_eq : params.length = records.length * columns.length
  cell_eq : ∀ i j record column, records[i]? = some record → columns[j]? = some column →
    params[i * columns.length + j]? = some (cell record column)

theorem boundRow_eq_cells (record : Fields Value) (columns : List String) :
    boundRow record columns = columns.map (cell record) := by
  refine List.map_congr_left fun column _ => ?_
  unfold Value.field cell
  cases record.get? column <;> rfl

theorem laidOut_flatMap (records : List (Fields Value)) (columns : List String) :
    LaidOut records columns (records.flatMap fun record => columns.map (cell record)) := by
  induction records with
  | nil => exact ⟨by simp, by simp⟩
  | cons first rest ih =>
    obtain ⟨hlength, hcells⟩ := ih
    constructor
    · rw [List.flatMap_cons, List.length_append, List.length_map, hlength, List.length_cons,
        Nat.succ_mul, Nat.add_comm]
    · intro i j record column hrecord hcolumn
      have hj : j < columns.length := (List.getElem?_eq_some_iff.mp hcolumn).1
      rw [List.flatMap_cons]
      cases i with
      | zero =>
        cases hrecord
        rw [List.getElem?_append_left (by simpa using hj)]
        simp [hcolumn]
      | succ i =>
        -- The cells of later records follow the whole row of the first.
        have hindex : (i + 1) * columns.length + j =
            (columns.map (cell first)).length + (i * columns.length + j) := by
          rw [Nat.succ_mul, List.length_map]
          omega
        rw [hindex, List.getElem?_append_right (Nat.le_add_right _ _), Nat.add_sub_cancel_left]
        exact hcells i j record column hrecord hcolumn

/-- Adding names one by one gives the distinct names, in the order of first occurrence. -/
theorem addNames_texts (names : List String) :
    addNames [] (names.map Value.text) = names.eraseDups.map Value.text := by
  -- By induction from the end: a repeated last name is already in the list of the names before it.
  induction names using List.reverseRecOn with
  | nil => rfl
  | append_singleton names name ih =>
    have hknown : ((names.eraseDups.map Value.text).any fun v => v.key? = (Value.text name).key?) =
        decide (name ∈ names) := by
      rw [Bool.eq_iff_iff]
      simp [Value.key?, List.mem_eraseDups]
    have hstep : addNames [] ((names ++ [name]).map Value.text) =
        if (addNames [] (names.map Value.text)).any fun v => v.key? = (Value.text name).key?
        then addNames [] (names.map Value.text)
        else addNames [] (names.map Value.text) ++ [Value.text name] := by
      simp [addNames]
    rw [hstep, ih, hknown, List.eraseDups_append]
    by_cases hname : name ∈ names
    · simp [hname, List.removeAll]
    · simp [hname, List.removeAll, List.eraseDups_cons]

theorem rowNames_records (names : List Value) (records : List (Fields Value)) :
    rowNames names (records.map Value.object) =
      .ok (addNames names ((records.flatMap Fields.keys).map Value.text)) := by
  induction records generalizing names with
  | nil => rfl
  | cons record rest ih =>
    rw [List.map_cons, rowNames, members?_object]
    simp only [ih, addNames, List.flatMap_cons, List.map_append, List.foldl_append]

/-- The columns and rows of a list of records. -/
theorem newRows_records (records : List (Fields Value)) :
    newRows (records.map Value.object) =
      .ok (recordColumns records, recordRows records) := by
  have hnames : rowNames [] (records.map Value.object) =
      .ok ((recordColumns records).map Value.text) := by
    rw [rowNames_records, addNames_texts]
    rfl
  have hcolumns : ((recordColumns records).map Value.text).forM checkColumn = .ok () := by
    refine Outcome.forM_eq_ok_of_forall fun v hv => ?_
    obtain ⟨name, -, rfl⟩ := List.mem_map.mp hv
    rfl
  have hshown : ((recordColumns records).map Value.text).map Value.shown =
      recordColumns records := by
    rw [List.map_map]
    exact List.map_id _
  have hrows : (records.map Value.object).mapM (newRow (recordColumns records)) =
      .ok (recordRows records) := by
    rw [List.mapM_map]
    exact Outcome.mapM_eq_ok_of_forall fun record _ => rfl
  simp only [newRows, hnames, hcolumns, hshown, hrows, Outcome.ok_bind, Outcome.pure_eq_ok]

variable {σ : Type} {answer : Executor σ} {source : MapperSource} {m : Schema.Mapper}
  {record : Fields Value} {records : List (Fields Value)}

theorem newRecord_object (record : Fields Value) : newRecord (.object record) = .ok record := by
  have hchecked : (record.map fun field => (Value.text field.1, field.2)).forM
      (fun entry => checkColumn entry.1) = .ok () := by
    refine Outcome.forM_eq_ok_of_forall fun entry hentry => ?_
    obtain ⟨field, -, rfl⟩ := List.mem_map.mp hentry
    rfl
  have hnamed : (record.map fun field => (Value.text field.1, field.2)).mapM namedEntry =
      .ok record := by
    have hentries : record.mapM (namedEntry ∘ fun field => (Value.text field.1, field.2)) =
        .ok (record.map id) := Outcome.mapM_eq_ok_of_forall fun _ _ => rfl
    rw [List.mapM_map, hentries, List.map_id]
  unfold newRecord
  change ((record.map fun field => (Value.text field.1, field.2)).forM
      (fun entry => checkColumn entry.1) >>= fun _ => _) = _
  rw [hchecked]
  exact hnamed

/-- The statement that inserts many records. -/
def insertion (m : Schema.Mapper) (records : List (Fields Value)) : Statement :=
  .insert m.tableName (recordColumns records) (recordRows records)

theorem truthy_records (hne : records ≠ []) :
    (Value.list (records.map Value.object)).truthy = true := by
  simpa [Value.truthy] using hne

theorem statements_createMany (hne : records ≠ []) :
    (Operation.createMany (.list (records.map .object))).statements m =
      [.ok (insertion m records)] := by
  simp only [Operation.statements, truthy_records hne, if_true, Value.members?, Option.getD_some,
    newRows_records]
  rfl

theorem statements_create :
    (Operation.create (.object record)).statements m =
      [.ok (.insertRow m.tableName record.keys (boundRow record record.keys))] := by
  rw [Operation.statements, newRecord_object]
  rfl

/-- Inserted records are returned as given. -/
theorem ending_createMany (answer : Executor σ) (hne : records ≠ []) (hm : source.resolve = .ok m)
    (dbg : Bool) (w : World σ) :
    showing (((Operation.createMany (.list (records.map .object))).task dbg source).run answer w) =
      ending answer m w (insertion m records).render
        fun r => ⟨.list (records.map .object), r.metadata⟩ := by
  rw [Operation.task, createMany]
  simp only [truthy_records hne, if_true, Value.members?, Option.getD_some, newRows_records]
  exact ending_of_statement hm dbg _ _
    (fun m => [("mapper", .text m.name), ("count", .int _)])
    (fun m => .ok (insertion m records)) (fun _ _ => [("count", .int _)])
    (fun _ r => ⟨.list (records.map .object), r.metadata⟩) w

/-- A new record is returned with its new id. -/
theorem ending_create (answer : Executor σ) (hm : source.resolve = .ok m) (dbg : Bool)
    (w : World σ) :
    showing (((Operation.create (.object record)).task dbg source).run answer w) =
      ending answer m w
        (Statement.insertRow m.tableName record.keys (boundRow record record.keys)).render
        fun r => ⟨.object (withId record m.idAttribute (Value.field r.metadata "last_row_id")),
          r.metadata⟩ := by
  rw [Operation.task, create]
  simp only [newRecord_object]
  exact ending_of_statement hm dbg _ _
    (fun m => [("mapper", .text m.name), ("props", .object record)])
    (fun m => .ok (.insertRow m.tableName record.keys (boundRow record record.keys)))
    (fun m r => [("id", Value.field r.metadata "last_row_id"),
      ("props", .object (withId record m.idAttribute (Value.field r.metadata "last_row_id")))])
    (fun m r => ⟨.object (withId record m.idAttribute (Value.field r.metadata "last_row_id")),
      r.metadata⟩) w

/-- An operation ensures its table and sends one insertion; its data are a function of the answer.
-/
def Inserts (o : Operation) (m : Schema.Mapper) (call : Call)
    (data : Remote.QueryResult → Value) : Prop :=
  ∀ (σ : Type) (answer : Executor σ) (dbg : Bool) (source : MapperSource) (w : World σ),
    source.resolve = .ok m →
      Sends answer o dbg source w [call] ∧
      showing ((o.task dbg source).run answer w) =
        ending answer m w (.ok ⟨call.sql, call.params⟩) fun r => ⟨data r, r.metadata⟩

/-- The record returned by a creation: the fields of the given one, except for a new id under the id
attribute. -/
structure Identified (record : Fields Value) (idAttribute : String) (id : Value)
    (created : Fields Value) : Prop where
  keys_eq : created.keys = if id.truthy = true ∧ idAttribute ∉ record.keys
    then record.keys ++ [idAttribute] else record.keys
  id_eq : created.get? idAttribute =
    if id.truthy = true then some id else record.get? idAttribute
  kept : ∀ name, name ≠ idAttribute → created.get? name = record.get? name

theorem identified_withId (record : Fields Value) (idAttribute : String) (id : Value) :
    Identified record idAttribute id (withId record idAttribute id) := by
  unfold withId
  cases hid : id.truthy with
  | false =>
    rw [if_neg Bool.false_ne_true]
    exact ⟨by simp [hid], by simp [hid], fun _ _ => rfl⟩
  | true =>
    rw [if_pos rfl]
    constructor
    · rw [Fields.keys_insert, hid]
      by_cases hname : idAttribute ∈ record.keys <;> simp [hname]
    · rw [Fields.get?_insert, hid]
      simp
    · intro name hname
      rw [Fields.get?_insert, if_neg hname]

theorem mem_recordColumns {name : String} :
    name ∈ recordColumns records ↔ ∃ record ∈ records, name ∈ record.keys := by
  rw [recordColumns, List.mem_eraseDups, List.mem_flatMap]

/-- There are no columns only if no record has a name. -/
theorem recordColumns_eq_nil_iff :
    recordColumns records = [] ↔ ∀ record ∈ records, record = [] := by
  rw [List.eq_nil_iff_forall_not_mem]
  constructor
  · intro h record hrecord
    cases record with
    | nil => rfl
    | cons field rest =>
      exact absurd (mem_recordColumns.mpr ⟨_, hrecord, List.mem_cons_self⟩) (h field.1)
  · intro h name hname
    obtain ⟨record, hrecord, hmem⟩ := mem_recordColumns.mp hname
    rw [h record hrecord] at hmem
    cases hmem

theorem eraseDups_of_nodup {names : List String} (h : names.Nodup) : names.eraseDups = names := by
  induction names with
  | nil => rfl
  | cons name rest ih =>
    obtain ⟨hname, hrest⟩ := List.nodup_cons.mp h
    have hothers : (rest.filter fun other => !other == name) = rest := by
      refine List.filter_eq_self.mpr fun other hother => ?_
      simpa using fun heq : other = name => hname (heq ▸ hother)
    rw [List.eraseDups_cons, hothers, ih hrest]

theorem recordColumns_singleton (h : record.keys.Nodup) : recordColumns [record] = record.keys := by
  rw [recordColumns, List.flatMap_singleton, eraseDups_of_nodup h]

theorem nodup_eraseDups : ∀ names : List String, names.eraseDups.Nodup
  | [] => by simp
  | name :: rest => by
    rw [List.eraseDups_cons, List.nodup_cons]
    exact ⟨by simp, nodup_eraseDups (rest.filter fun other => !other == name)⟩
termination_by names => names.length
decreasing_by exact Nat.lt_succ_of_le (List.length_filter_le _ _)

theorem nodup_recordColumns (records : List (Fields Value)) : (recordColumns records).Nodup :=
  nodup_eraseDups _

/-- Every row has a value for each of the common columns. -/
theorem length_of_mem_recordRows :
    ∀ row ∈ recordRows records, row.length = (recordColumns records).length := by
  intro row hrow
  obtain ⟨record, -, rfl⟩ := List.mem_map.mp hrow
  exact List.length_map _

theorem insertText_records (table : String) (h : recordColumns records ≠ []) :
    insertText table (recordColumns records) (recordRows records) =
      ⟨insertionText table (recordColumns records) records.length,
        (recordRows records).flatten⟩ := by
  have htext := insertText_eq table h length_of_mem_recordRows
  rwa [recordRows, List.length_map, ← recordRows] at htext

theorem laidOut_recordRows (records : List (Fields Value)) :
    LaidOut records (recordColumns records) (recordRows records).flatten := by
  simpa only [recordRows, List.flatMap, boundRow_eq_cells] using
    laidOut_flatMap records (recordColumns records)

/-- An operation whose statement is rendered inserts by it. -/
theorem inserts_of_render {o : Operation} {statement : Statement} {f : Fragment Value}
    {data : Remote.QueryResult → Value} (hstatements : o.statements m = [.ok statement])
    (hrender : statement.render = .ok f)
    (hending : ∀ {σ : Type} (answer : Executor σ) (dbg : Bool) (source : MapperSource)
      (w : World σ), source.resolve = .ok m →
        showing ((o.task dbg source).run answer w) =
          ending answer m w statement.render fun r => ⟨data r, r.metadata⟩) :
    Inserts o m ⟨f.text, f.params⟩ data := by
  intro σ answer dbg source w hm
  have hsends := sends_statement answer dbg hm w hstatements
  rw [Outcome.ok_bind, hrender] at hsends
  refine ⟨hsends, ?_⟩
  rw [hending answer dbg source w hm, hrender]

/-- Records of which one has a name are inserted by one statement under the union of their names,
and the value of every record under every name is the parameter at the corresponding place. For a
single record the statement is that of its creation, which returns it with its new id. -/
theorem insertions_aligned (m : Schema.Mapper) (records : List (Fields Value))
    (hplain : ∀ record ∈ records, ∀ name ∈ record.keys, isPlainName name = true)
    (hnamed : ∃ record ∈ records, record ≠ []) :
    ∃ params, LaidOut records (recordColumns records) params ∧
      Inserts (.createMany (.list (records.map .object))) m
        ⟨insertionText m.tableName (recordColumns records) records.length, params⟩
        (fun _ => .list (records.map .object)) ∧
      ∀ record, records = [record] → record.keys.Nodup →
        recordColumns records = record.keys ∧
        ∃ created : Remote.QueryResult → Fields Value,
          (∀ r, Identified record m.idAttribute (Value.field r.metadata "last_row_id")
            (created r)) ∧
          Inserts (.create (.object record)) m
            ⟨insertionText m.tableName (recordColumns records) records.length, params⟩
            fun r => .object (created r) := by
  have hcolumns : recordColumns records ≠ [] := by
    intro hnil
    obtain ⟨record, hrecord, hfields⟩ := hnamed
    exact hfields (recordColumns_eq_nil_iff.mp hnil record hrecord)
  have hne : records ≠ [] := by
    rintro rfl
    exact hcolumns rfl
  have hbinds : ∀ column ∈ recordColumns records, isPlainBind column = true := by
    intro column hcolumn
    obtain ⟨record, hrecord, hname⟩ := mem_recordColumns.mp hcolumn
    exact isPlainBind_of_isPlainName (hplain record hrecord column hname)
  have htext := insertText_records m.tableName hcolumns
  refine ⟨(recordRows records).flatten, laidOut_recordRows records, ?_, ?_⟩
  · have hrender : (insertion m records).render = .ok _ :=
      Statement.render_insert (nodup_recordColumns records) hbinds length_of_mem_recordRows
    rw [htext] at hrender
    exact inserts_of_render (statements_createMany hne) hrender fun answer dbg _ w hm =>
      ending_createMany answer hne hm dbg w
  · rintro record rfl hdistinct
    -- The columns of a single record are its own names, so both operations render the same.
    have hkeys := recordColumns_singleton hdistinct
    have hrow : recordRows [record] = [boundRow record (recordColumns [record])] := rfl
    have hrender : (Statement.insertRow m.tableName _ _).render = .ok _ :=
      Statement.render_insertRow (nodup_recordColumns _) hbinds
        (length_of_mem_recordRows _ (List.mem_singleton_self (boundRow record _)))
    rw [← hrow, htext, hkeys] at hrender
    refine ⟨hkeys, _, fun r => identified_withId record _ _, ?_⟩
    rw [hkeys]
    exact inserts_of_render statements_create hrender fun answer dbg _ w hm =>
      ending_create answer hm dbg w

/-- Records with different names, one of them without any. -/
def raggedRecords : List (Fields Value) :=
  [[("title", .text "a"), ("tags", .list [.text "x"])], [], [("rank", .int 3), ("title", .null)]]

/-- The names of the first record come first, and its list is stored as text; a missing name gives
null. -/
theorem insertions_aligned_ragged :
    (∀ record ∈ raggedRecords, ∀ name ∈ record.keys, isPlainName name = true) ∧
      (∃ record ∈ raggedRecords, record ≠ []) ∧
      ∃ params, params.length = 9 ∧ params[1]? = some (.text "[\"x\"]") ∧
        params[5]? = some .null ∧ params[8]? = some (.int 3) ∧
        Inserts (.createMany (.list (raggedRecords.map .object))) (Schema.Mapper.ofName "Note")
          ⟨"INSERT INTO note (title, tags, rank) VALUES (?, ?, ?), (?, ?, ?), (?, ?, ?)", params⟩
          fun _ => .list (raggedRecords.map .object) := by
  have hplain : ∀ record ∈ raggedRecords, ∀ name ∈ record.keys, isPlainName name = true := by
    decide
  have hnamed : ∃ record ∈ raggedRecords, record ≠ [] :=
    ⟨_, List.mem_cons_self, List.cons_ne_nil _ _⟩
  obtain ⟨params, hlaid, hmany, -⟩ :=
    insertions_aligned (Schema.Mapper.ofName "Note") raggedRecords hplain hnamed
  have hcolumns : recordColumns raggedRecords = ["title", "tags", "rank"] := by decide
  have htext : insertionText (Schema.Mapper.ofName "Note").tableName ["title", "tags", "rank"] 3 =
      "INSERT INTO note (title, tags, rank) VALUES (?, ?, ?), (?, ?, ?), (?, ?, ?)" := by
    decide +kernel
  have hlength : raggedRecords.length = 3 := rfl
  rw [hcolumns] at hlaid hmany
  rw [hlength, htext] at hmany
  exact ⟨hplain, hnamed, params, hlaid.length_eq, hlaid.cell_eq 0 1 _ _ rfl rfl,
    hlaid.cell_eq 1 2 _ _ rfl rfl, hlaid.cell_eq 2 2 _ _ rfl rfl, hmany⟩

/-- A successful operation has rendered its statement. -/
theorem exists_of_ending_eq_ok {w : World σ} {written : Outcome (Fragment Value)}
    {reply : Remote.QueryResult → Reply} {r : Reply}
    (h : (ending answer m w written reply).1 = .ok r) : ∃ f, written = .ok f := by
  unfold ending at h
  split at h
  · cases h
  · obtain ⟨f, hf, -⟩ := Outcome.bind_eq_ok_iff.mp h
    exact ⟨f, hf⟩

/-- The number of rows that the data statements among calls add. -/
def rowsAdded (calls : List Call) : ℕ :=
  ((dataCalls calls).map fun call => insertedRows call.sql).sum

theorem insertedRows_render {f : Fragment Value} (hne : records ≠ [])
    (h : (insertion m records).render = .ok f) :
    insertedRows f.text =
      if ∀ record ∈ records, record = [] then min 1 records.length else records.length := by
  have hpos : 0 < records.length := List.length_pos_iff.mpr hne
  have hlength : (recordRows records).length = records.length := List.length_map _
  have hempty : (recordColumns records).isEmpty = true ↔ ∀ record ∈ records, record = [] :=
    List.isEmpty_iff.trans recordColumns_eq_nil_iff
  obtain ⟨draft, hdraft, rfl⟩ := Statement.exists_draft_of_render h
  rw [Statement.values_draft_insert hdraft length_of_mem_recordRows, insertedRows_insertText,
    hlength, Nat.min_eq_left hpos]
  exact if_congr hempty rfl rfl

/-- A successful insertion of many records adds one row for each record, except that several records
of which none has a name add one row in total. -/
theorem rowsAdded_createMany (answer : Executor σ) (hm : source.resolve = .ok m)
    (records : List (Fields Value)) (dbg : Bool) (w : World σ) {reply : Reply}
    (hok : (((Operation.createMany (.list (records.map .object))).task dbg source).run
      answer w).1 = .ok reply) :
    ∃ calls, (((Operation.createMany (.list (records.map .object))).task dbg source).run
        answer w).2.calls = w.calls ++ calls ∧
      rowsAdded calls =
        (if ∀ record ∈ records, record = [] then min 1 records.length else records.length) ∧
      (rowsAdded calls = records.length ↔
        records.length ≤ 1 ∨ ∃ record ∈ records, record ≠ []) := by
  obtain ⟨calls, hcalls, -, hcomplete⟩ :=
    sends_writable answer dbg hm (.createMany (.list (records.map .object))) w
  have hdata := hcomplete reply hok
  have hrows : rowsAdded calls =
      if ∀ record ∈ records, record = [] then min 1 records.length else records.length := by
    unfold rowsAdded
    by_cases hne : records = []
    · subst hne
      rw [hdata]
      rfl
    · have hending := ending_createMany answer hne hm dbg w
      have hended := (congrArg Prod.fst hending).symm.trans hok
      obtain ⟨f, hf⟩ := exists_of_ending_eq_ok hended
      have hcall : writable [.ok (insertion m records)] = [⟨f.text, f.params⟩] := by
        simp only [writable, Outcome.ok_bind, hf]
      rw [hdata, statements_createMany hne, hcall, ← insertedRows_render hne hf]
      exact Nat.add_zero _
  refine ⟨calls, hcalls, hrows, ?_⟩
  rw [hrows]
  by_cases hvoid : ∀ record ∈ records, record = []
  · have hnone : ¬∃ record ∈ records, record ≠ [] := by
      rintro ⟨record, hrecord, hfields⟩
      exact hfields (hvoid record hrecord)
    rw [if_pos hvoid, or_iff_left hnone]
    omega
  · have hsome : ∃ record ∈ records, record ≠ [] := by
      simpa only [not_forall, exists_prop] using hvoid
    rw [if_neg hvoid]
    exact iff_of_true rfl (Or.inr hsome)

/-- A remote side that executes every statement and reports no metadata. -/
def silentServer : Executor Unit := fun _ _ => (.ok .empty, ())

/-- An empty record adds a row when another record has a name. -/
theorem rowsAdded_createMany_ragged :
    (MapperSource.described (.text "Note")).resolve = .ok (Schema.Mapper.ofName "Note") ∧
      ∃ reply, (((Operation.createMany (.list (raggedRecords.map .object))).task true
          (.described (.text "Note"))).run silentServer (newWorld () true true [])).1 = .ok reply ∧
        rowsAdded (((Operation.createMany (.list (raggedRecords.map .object))).task true
          (.described (.text "Note"))).run silentServer
            (newWorld () true true [])).2.calls = 3 := by
  have hm : (MapperSource.described (.text "Note")).resolve =
      .ok (Schema.Mapper.ofName "Note") := rfl
  refine ⟨hm, _, rfl, ?_⟩
  obtain ⟨calls, hcalls, hrows, -⟩ := rowsAdded_createMany silentServer hm raggedRecords true
    (newWorld () true true []) rfl
  rw [hcalls]
  exact hrows

/-- Two records without names are accepted, and one row is added. -/
theorem void_records_insert_one_row :
    ¬∀ records : List (Fields Value),
      let run := ((Operation.createMany (.list (records.map .object))).task false
        (.described (.text "User"))).run silentServer (newWorld () true true ["user"])
      (∃ reply, run.1 = .ok reply) → rowsAdded run.2.calls = records.length := by
  intro h
  have hrows := h [[], []] ⟨_, rfl⟩
  revert hrows
  decide +kernel

end Adapter

end SqlBridge
