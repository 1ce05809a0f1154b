import SqlBridge.Adapter.Session
import SqlBridge.Proofs.Adapter.Sending
import SqlBridge.Proofs.Query.SameShape
import SqlBridge.Proofs.Task.Pair

/-!
Operations that differ in values only. Two runs of an operation over equal registries and equal
answers send the same texts, if their arguments differ only in values: the values of records under
the same names, ids, limits and offsets, and operands of the same shape. So no value that is passed
as a parameter occurs in a text.
-/

namespace SqlBridge.Adapter

open Sql

/-- Equal records, or records with the same names. -/
inductive SameRecord : Value → Value → Prop
  | same (v : Value) : SameRecord v v
  | object {fields fields' : Fields Value} (h : fields.keys = fields'.keys) :
    SameRecord (.object fields) (.object fields')

/-- Equal rows, or rows that match one by one. -/
inductive SameRows : Value → Value → Prop
  | same (v : Value) : SameRows v v
  | list {rows rows' : List Value} (h : List.Forall₂ SameRecord rows rows') :
    SameRows (.list rows) (.list rows')

/-- Equal new records, or new records with the same names. -/
inductive SameNew : Value → Value → Prop
  | same (v : Value) : SameNew v v
  | named {v v' : Value} {es es' : List (Value × Value)} (hread : entries v = .ok es)
    (hread' : entries v' = .ok es') (h : es.map Prod.fst = es'.map Prod.fst) : SameNew v v'

/-- Equal records, or records with the same names whose ids have the same shape. -/
inductive SameIdentified (idAttribute : String) : Value → Value → Prop
  | same (v : Value) : SameIdentified idAttribute v v
  | object {fields fields' : Fields Value} (h : fields.keys = fields'.keys)
    (hid : (Value.field fields idAttribute).SameShape (Value.field fields' idAttribute)) :
    SameIdentified idAttribute (.object fields) (.object fields')

inductive SameChanges (idAttribute : String) : Value → Value → Prop
  | same (v : Value) : SameChanges idAttribute v v
  | list {records records' : List Value}
    (h : List.Forall₂ (SameIdentified idAttribute) records records') :
    SameChanges idAttribute (.list records) (.list records')

/-- Operations whose arguments differ in values only. -/
inductive Operation.SameShape (idAttribute : String) : Operation → Operation → Prop
  | count {query query' : Value} (h : Criteria.SameQuery query query') :
    SameShape idAttribute (.count query) (.count query')
  | create {props props' : Value} (h : SameNew props props') :
    SameShape idAttribute (.create props) (.create props')
  | createMany {rows rows' : Value} (h : SameRows rows rows') :
    SameShape idAttribute (.createMany rows) (.createMany rows')
  | find {id id' : Value} (h : id.SameShape id') : SameShape idAttribute (.find id) (.find id')
  | findAll {query query' : Value} (h : Criteria.SameQuery query query') :
    SameShape idAttribute (.findAll query) (.findAll query')
  | update {id id' props props' : Value} (hid : id.SameShape id') (h : SameRecord props props') :
    SameShape idAttribute (.update id props) (.update id' props')
  | updateAll {props props' query query' : Value} (h : SameRecord props props')
    (hquery : Criteria.SameQuery query query') :
    SameShape idAttribute (.updateAll props query) (.updateAll props' query')
  | updateMany {records records' : Value} (h : SameChanges idAttribute records records') :
    SameShape idAttribute (.updateMany records) (.updateMany records')
  | destroy {id id' : Value} (h : id.SameShape id') :
    SameShape idAttribute (.destroy id) (.destroy id')
  | destroyAll {query query' : Value} (h : Criteria.SameQuery query query') :
    SameShape idAttribute (.destroyAll query) (.destroyAll query')
  | sum (field : Value) {query query' : Value} (h : Criteria.SameQuery query query') :
    SameShape idAttribute (.sum field query) (.sum field query')

theorem SameRecord.truthy {v v' : Value} (h : SameRecord v v') : v.truthy = v'.truthy := by
  cases h with
  | same v => rfl
  | @object fields fields' hkeys =>
    cases fields <;> cases fields' <;> simp_all [Fields.keys, Value.truthy]

theorem SameRecord.members? {v v' : Value} (h : SameRecord v v') : v.members? = v'.members? := by
  cases h with
  | same v => rfl
  | object hkeys => rw [members?_object, members?_object, hkeys]

theorem SameRecord.changes {v v' : Value} (h : SameRecord v v') :
    Outcome.Alike (fun fields fields' : Fields Value => fields.keys = fields'.keys)
      (Adapter.changes v) (Adapter.changes v') := by
  cases h with
  | same v =>
    refine Outcome.Alike.refl (fun fields => ?_) _
    rfl
  | object hkeys => exact .ok hkeys

theorem SameIdentified.record {idAttribute : String} {v v' : Value}
    (h : SameIdentified idAttribute v v') : SameRecord v v' := by
  cases h with
  | same v => exact .same v
  | object hkeys _ => exact .object hkeys

/-- Steps of two tasks with unrelated results. -/
abbrev Loosely {α β : Type} : Task α → Task β → Prop := Task.Alike fun _ _ => True

theorem alike_debug (dbg : Bool) (message : String) (fields fields' : Fields Value) :
    Task.Alike Eq (debug dbg message fields) (debug dbg message fields') := by
  cases dbg with
  | false => exact .done rfl
  | true => exact .note _ _ (.done rfl)

/-- Statements that differ in values only are sent with the same text. -/
theorem alike_execute {statement statement' : Outcome Statement}
    (h : Outcome.Alike Statement.SameShape statement statement') :
    Task.Alike Eq (execute statement) (execute statement') :=
  (Task.Alike.ofOutcome (h.bind fun _ _ hs => hs.render)).bind fun _ _ hf =>
    .send hf fun _ => .done rfl

/-- An operation ensures its table before its statement, independently of the values. -/
theorem alike_opening {α β : Type} (source : MapperSource) (dbg : Bool) (message : String)
    (fields fields' : Schema.Mapper → Fields Value) {k : Schema.Mapper → Task α}
    {k' : Schema.Mapper → Task β} (hk : ∀ m, Loosely (k m) (k' m)) :
    Loosely (prepare source >>= fun m => debug dbg message (fields m) >>= fun _ => k m)
      (prepare source >>= fun m => debug dbg message (fields' m) >>= fun _ => k' m) := by
  apply (Task.Alike.same (prepare source)).after
  intro m
  exact (alike_debug dbg message (fields m) (fields' m)).after fun _ => hk m

/-- The last statement of an operation; nothing is sent after it. -/
theorem alike_last {α β : Type} {statement statement' : Outcome Statement}
    (h : Outcome.Alike Statement.SameShape statement statement') (dbg : Bool) (message : String)
    {fields fields' : Remote.QueryResult → Fields Value} {a : Remote.QueryResult → α}
    {b : Remote.QueryResult → β} :
    Loosely (execute statement >>= fun r => debug dbg message (fields r) >>= fun _ => pure (a r))
      (execute statement' >>= fun r => debug dbg message (fields' r) >>= fun _ => pure (b r)) := by
  apply (alike_execute h).after
  intro r
  exact (alike_debug dbg message (fields r) (fields' r)).after fun _ => .done trivial

theorem alike_compiled {query query' : Value} (h : Criteria.SameQuery query query') :
    Task.Alike Criteria.SameShape (compiled query) (compiled query') :=
  Task.Alike.ofOutcome (Criteria.alike_compile h)

/-- Reads under queries that differ in values only. -/
theorem alike_read {c c' : Criteria} (h : c.SameShape c') (projection : Projection)
    (table : String) :
    Outcome.Alike Statement.SameShape ((c.select projection table).map .select)
      ((c'.select projection table).map .select) :=
  (Criteria.alike_select h projection table).map fun _ _ hs => .select hs

theorem alike_count (dbg : Bool) (source : MapperSource) {query query' : Value}
    (h : Criteria.SameQuery query query') :
    Loosely (count dbg source query) (count dbg source query') := by
  apply alike_opening source dbg "_count"
  intro m
  exact (alike_compiled h).bind fun c c' hc => alike_last (alike_read hc .count m.tableName) _ _

theorem alike_findAll (dbg : Bool) (source : MapperSource) {query query' : Value}
    (h : Criteria.SameQuery query query') :
    Loosely (findAll dbg source query) (findAll dbg source query') := by
  apply alike_opening source dbg "_find_all"
  intro m
  exact (alike_compiled h).bind fun c c' hc =>
    alike_last (alike_read hc .everything m.tableName) _ _

theorem alike_sum (dbg : Bool) (source : MapperSource) (field : Value) {query query' : Value}
    (h : Criteria.SameQuery query query') :
    Loosely (sum dbg source field query) (sum dbg source field query') := by
  apply alike_opening source dbg "_sum"
  intro m
  exact (alike_compiled h).bind fun c c' hc =>
    alike_last (alike_read hc (.sum (ColumnName.ofValue field)) m.tableName) _ _

theorem alike_destroyAll (dbg : Bool) (source : MapperSource) {query query' : Value}
    (h : Criteria.SameQuery query query') :
    Loosely (destroyAll dbg source query) (destroyAll dbg source query') := by
  apply alike_opening source dbg "_destroy_all"
  intro m
  exact (alike_compiled h).bind fun c c' hc => alike_last
    ((Criteria.alike_scope hc m.tableName).map fun _ _ hs => .delete m.tableName hs) _ _

/-- Conditions on ids of the same shape have the same text. -/
theorem alike_identified (m : Schema.Mapper) {id id' : Value} (h : id.SameShape id') :
    Outcome.Alike Predicate.SameShape (identified m id) (identified m id') :=
  Criteria.alike_predicate (.named m.idAttribute) (.comparison .equal) h

theorem alike_find (dbg : Bool) (source : MapperSource) {id id' : Value}
    (h : id.SameShape id') : Loosely (find dbg source id) (find dbg source id') := by
  apply alike_opening source dbg "_find"
  intro m
  refine alike_last ((alike_identified m h).bind fun p p' hp => .ok ?_) _ _
  exact .select ⟨rfl, rfl, .cons hp .nil, rfl, ⟨rfl, rfl⟩⟩

theorem alike_destroy (dbg : Bool) (source : MapperSource) {id id' : Value}
    (h : id.SameShape id') : Loosely (destroy dbg source id) (destroy dbg source id') := by
  apply alike_opening source dbg "_destroy"
  intro m
  have hstatement : Outcome.Alike Statement.SameShape
      (identified m id >>= fun p => .ok (.delete m.tableName (.satisfying [p])))
      (identified m id' >>= fun p => .ok (.delete m.tableName (.satisfying [p]))) :=
    (alike_identified m h).bind fun p p' hp =>
      .ok (.delete m.tableName (.satisfying (.cons hp .nil)))
  apply (alike_execute hstatement).after
  intro r
  apply (Task.Alike.same (Task.ofOutcome (reportsChanges r.metadata))).after
  intro changed
  exact (alike_debug dbg _ _ _).after fun _ => .done trivial

theorem alike_requireChanges (source : MapperSource) {props props' : Value}
    (h : SameRecord props props') :
    Task.Alike Eq (requireChanges source props) (requireChanges source props') := by
  unfold requireChanges
  rw [h.truthy]
  exact Task.Alike.same _

theorem alike_changeColumns {props props' : Value} (h : SameRecord props props') :
    Outcome.Alike Eq (changeColumns props) (changeColumns props') := by
  unfold changeColumns
  rw [h.members?]
  exact Outcome.Alike.refl (fun u => rfl) _

theorem alike_updateStatement (m : Schema.Mapper) {id id' props props' : Value}
    (hid : id.SameShape id') (h : SameRecord props props') :
    Outcome.Alike Statement.SameShape (updateStatement m id props)
      (updateStatement m id' props') := by
  apply (alike_changeColumns h).bind
  intro _ _ _
  apply (alike_identified m hid).bind
  intro p p' hp
  apply h.changes.bind
  intro fields fields' hkeys
  refine .ok (.update m.tableName ?_ (.satisfying (.cons hp .nil)))
  rw [keys_boundFields, keys_boundFields, hkeys]

theorem alike_update (dbg : Bool) (source : MapperSource) {id id' props props' : Value}
    (hid : id.SameShape id') (h : SameRecord props props') :
    Loosely (update dbg source id props) (update dbg source id' props') := by
  apply (alike_requireChanges source h).after
  intro _
  apply alike_opening source dbg "_update"
  intro m
  apply (alike_execute (alike_updateStatement m hid h)).after
  intro r
  apply (alike_find dbg (.ready m) hid).bind
  intro _ _ _
  apply (Task.Alike.same (Task.ofOutcome (reportsChanges r.metadata))).after
  intro changed
  exact (alike_debug dbg _ _ _).after fun _ => .done trivial

theorem alike_updateAll (dbg : Bool) (source : MapperSource) {props props' query query' : Value}
    (h : SameRecord props props') (hquery : Criteria.SameQuery query query') :
    Loosely (updateAll dbg source props query) (updateAll dbg source props' query') := by
  apply (alike_requireChanges source h).after
  intro _
  apply alike_opening source dbg "_update_all"
  intro m
  apply alike_last
  apply (alike_changeColumns h).bind
  intro _ _ _
  apply (Criteria.alike_compile hquery).bind
  intro c c' hc
  apply h.changes.bind
  intro fields fields' hkeys
  apply (Criteria.alike_scope hc m.tableName).bind
  intro scope scope' hscope
  refine .ok (.update m.tableName ?_ hscope)
  rw [keys_boundFields, keys_boundFields, hkeys]

theorem alike_namedEntries {es es' : List (Value × Value)}
    (h : es.map Prod.fst = es'.map Prod.fst) :
    Outcome.Alike (fun record record' : Fields Value => record.keys = record'.keys)
      (es.forM (fun entry => checkColumn entry.1) >>= fun _ => es.mapM namedEntry)
      (es'.forM (fun entry => checkColumn entry.1) >>= fun _ => es'.mapM namedEntry) := by
  have hentries : List.Forall₂ (fun entry entry' => entry.1 = entry'.1) es es' := by
    have hnames : List.Forall₂ (· = ·) (es.map Prod.fst) (es'.map Prod.fst) := by
      rw [List.forall₂_eq_eq_eq]
      exact h
    simpa only [List.forall₂_map_left_iff, List.forall₂_map_right_iff] using hnames
  have hnamed : ∀ entry entry' : Value × Value, entry.1 = entry'.1 →
      Outcome.Alike (fun field field' : String × Value => field.1 = field'.1)
        (namedEntry entry) (namedEntry entry') := by
    intro entry entry' hname
    unfold namedEntry
    rw [hname]
    split
    · exact .ok rfl
    · exact .error _
  have hcolumns : ∀ entry entry' : Value × Value, entry.1 = entry'.1 →
      Outcome.Alike Eq (checkColumn entry.1) (checkColumn entry'.1) := by
    intro entry entry' hname
    rw [hname]
    exact Outcome.Alike.refl (fun u => rfl) _
  apply (Outcome.Alike.forM hentries hcolumns).bind
  intro _ _ _
  refine Outcome.Alike.mono (Outcome.Alike.mapM hentries hnamed) fun record record' hrecord => ?_
  induction hrecord with
  | nil => rfl
  | cons hfield _ ih =>
    simp only [Fields.keys, List.map_cons] at ih ⊢
    rw [hfield, ih]

theorem SameNew.record {props props' : Value} (h : SameNew props props') :
    Outcome.Alike (fun record record' : Fields Value => record.keys = record'.keys)
      (newRecord props) (newRecord props') := by
  cases h with
  | same =>
    refine Outcome.Alike.refl (fun record => ?_) _
    rfl
  | named hread hread' hnames =>
    unfold newRecord
    rw [hread, hread']
    exact alike_namedEntries hnames

theorem length_boundRow (record : Fields Value) (columns : List String) :
    (boundRow record columns).length = columns.length := by
  simp [boundRow]

theorem alike_create (dbg : Bool) (source : MapperSource) {props props' : Value}
    (h : SameNew props props') :
    Loosely (create dbg source props) (create dbg source props') := by
  apply alike_opening source dbg "_create"
  intro m
  apply (Task.Alike.ofOutcome h.record).bind
  intro record record' hkeys
  refine alike_last (.ok ?_) dbg "_create result"
  rw [hkeys]
  exact .insertRow m.tableName record'.keys (by rw [length_boundRow, length_boundRow])

theorem rowNames_eq {rows rows' : List Value} (h : List.Forall₂ SameRecord rows rows')
    (names : List Value) : rowNames names rows = rowNames names rows' := by
  induction h generalizing names with
  | nil => rfl
  | cons hrow _ ih =>
    simp only [rowNames, hrow.members?]
    split
    · exact ih _
    · rfl

theorem alike_newRow (columns : List String) {row row' : Value} (h : SameRecord row row') :
    Outcome.Alike (fun values values' : List Value => values.length = values'.length)
      (newRow columns row) (newRow columns row') := by
  cases h with
  | same v =>
    refine Outcome.Alike.refl (fun values => ?_) _
    rfl
  | object hkeys => exact .ok (by rw [length_boundRow, length_boundRow])

theorem alike_newRows {rows rows' : List Value} (h : List.Forall₂ SameRecord rows rows') :
    Outcome.Alike (fun x x' => x.1 = x'.1 ∧
        List.Forall₂ (fun row row' : List Value => row.length = row'.length) x.2 x'.2)
      (newRows rows) (newRows rows') := by
  unfold newRows
  rw [rowNames_eq h]
  apply Outcome.Alike.after
  intro names
  apply Outcome.Alike.after
  intro _
  exact (Outcome.Alike.mapM h fun row row' => alike_newRow (names.map Value.shown)).bind
    fun values values' hvalues => .ok ⟨rfl, hvalues⟩

theorem alike_createMany_list (dbg : Bool) (source : MapperSource) {rows rows' : List Value}
    (h : List.Forall₂ SameRecord rows rows') :
    Loosely (createMany dbg source (.list rows)) (createMany dbg source (.list rows')) := by
  have htruthy : (Value.list rows).truthy = (Value.list rows').truthy := by cases h <;> rfl
  apply (Task.Alike.same (prepare source)).after
  intro m
  apply (Task.Alike.ofOutcome (.ok h.length_eq)).bind
  intro n n' hn
  apply (alike_debug dbg _ _ _).after
  intro _
  rw [htruthy]
  split
  · apply (Task.Alike.ofOutcome (alike_newRows h)).bind
    intro x x' hx
    obtain ⟨columns, values⟩ := x
    obtain ⟨columns', values'⟩ := x'
    obtain ⟨hcolumns, hvalues⟩ := hx
    cases hcolumns
    exact alike_last (.ok (.insert m.tableName columns hvalues)) _ _
  · exact .done trivial

theorem alike_createMany (dbg : Bool) (source : MapperSource) {rows rows' : Value}
    (h : SameRows rows rows') :
    Loosely (createMany dbg source rows) (createMany dbg source rows') := by
  cases h with
  | same v => exact Task.Alike.refl (fun _ => trivial) _
  | list hrows => exact alike_createMany_list dbg source hrows

theorem SameIdentified.id {m : Schema.Mapper} {v v' : Value}
    (h : SameIdentified m.idAttribute v v') :
    Outcome.Alike (fun fields fields' => (Value.field fields m.idAttribute).SameShape
      (Value.field fields' m.idAttribute)) (changes v) (changes v') := by
  cases h with
  | same v =>
    refine Outcome.Alike.refl (fun fields => ?_) _
    exact .same _
  | object _ hid => exact .ok hid

/-- Updates one after another, of records with the same names and ids of the same shape. -/
theorem alike_updateEach (dbg : Bool) (m : Schema.Mapper) {records records' : List Value}
    (h : List.Forall₂ (SameIdentified m.idAttribute) records records') :
    Task.Alike (fun replies replies' => replies.length = replies'.length)
      (updateEach dbg m records) (updateEach dbg m records') := by
  induction h with
  | nil => exact .done rfl
  | cons hrecord _ ih =>
    apply (Task.Alike.ofOutcome hrecord.id).bind
    intro fields fields' hid
    apply (alike_update dbg (.ready m) hid hrecord.record).bind
    intro reply reply' _
    exact ih.bind fun replies replies' hlength => .done (by simp [hlength])

theorem alike_updateMany (dbg : Bool) {source : MapperSource} {idAttribute : String}
    (hsource : ∀ m, source.resolve = .ok m → m.idAttribute = idAttribute)
    {records records' : Value} (h : SameChanges idAttribute records records') :
    Loosely (updateMany dbg source records) (updateMany dbg source records') := by
  cases h with
  | same v => exact Task.Alike.refl (fun _ => trivial) _
  | @list records records' hrecords =>
    have hresolve : Outcome.Alike (fun m m' => m = m' ∧ m.idAttribute = idAttribute)
        source.resolve source.resolve := by
      cases hm : source.resolve with
      | error f => exact .error f
      | ok m => exact .ok ⟨rfl, hsource m hm⟩
    apply (Task.Alike.ofOutcome hresolve).bind
    intro m _ hm
    obtain ⟨rfl, rfl⟩ := hm
    apply (Task.Alike.ofOutcome (.ok hrecords.length_eq)).bind
    intro n n' hn
    apply (alike_debug dbg _ _ _).after
    intro _
    apply (alike_updateEach dbg m hrecords).bind
    intro replies replies' _
    exact (alike_debug dbg _ _ _).after fun _ => .done trivial

/-- Operations that differ in values only run alike. -/
theorem alike_task (dbg : Bool) {source : MapperSource} {idAttribute : String}
    (hsource : ∀ m, source.resolve = .ok m → m.idAttribute = idAttribute)
    {o o' : Operation} (h : o.SameShape idAttribute o') :
    Loosely (o.task dbg source) (o'.task dbg source) := by
  cases h with
  | count hquery => exact alike_count dbg source hquery
  | create hprops => exact alike_create dbg source hprops
  | createMany hrows => exact alike_createMany dbg source hrows
  | find hid => exact alike_find dbg source hid
  | findAll hquery => exact alike_findAll dbg source hquery
  | update hid hprops => exact alike_update dbg source hid hprops
  | updateAll hprops hquery => exact alike_updateAll dbg source hprops hquery
  | updateMany hrecords => exact alike_updateMany dbg hsource hrecords
  | destroy hid => exact alike_destroy dbg source hid
  | destroyAll hquery => exact alike_destroyAll dbg source hquery
  | sum field hquery => exact alike_sum dbg source field hquery

/-- Two runs of an operation whose arguments differ in values only send the same texts, if both
start from the same registry and get the same answers. Both succeed, or both fail alike, and they
end with the same registry. -/
theorem values_never_sent_as_text {σ : Type} {answer answer' : Executor σ}
    (hanswers : SameAnswers answer answer') (dbg : Bool) {source : MapperSource}
    {idAttribute : String} (hsource : ∀ m, source.resolve = .ok m → m.idAttribute = idAttribute)
    {o o' : Operation} (h : o.SameShape idAttribute o') {w w' : World σ} (hw : w.Alike w') :
    ((o.task dbg source).run answer w).2.calls.map Call.sql =
        ((o'.task dbg source).run answer' w').2.calls.map Call.sql ∧
      ((o.task dbg source).run answer w).2.Alike ((o'.task dbg source).run answer' w').2 ∧
      Outcome.Alike (fun _ _ => True) ((o.task dbg source).run answer w).1
        ((o'.task dbg source).run answer' w').1 := by
  obtain ⟨houtcome, hworld⟩ := (alike_task dbg hsource h).run hanswers hw
  exact ⟨hworld.texts, hworld, houtcome⟩

/-- The answers of a script depend on the texts of calls only. -/
theorem sameAnswers_script : SameAnswers Remote.Script.answer Remote.Script.answer := by
  intro call call' remote hsql
  unfold Remote.Script.answer
  rw [hsql]

/-- A change of two fields under a paged query with a nested one. -/
def changeOf (name mail : Value) (limit : Int) (first second : Value) : Operation :=
  .updateAll (.object [("name", name), ("mail", mail)])
    (.object [("limit", .int limit), ("where", .object
      [("a", .object [("in", .list [first, second])]), ("b", .object [("!=", .null)])])])

theorem sameShape_changeOf {name name' mail mail' : Value} {limit limit' : Int}
    {first first' second second' : Value} (hfirst : first.SameScalar first')
    (hsecond : second.SameScalar second') (idAttribute : String) :
    (changeOf name mail limit first second).SameShape idAttribute
      (changeOf name' mail' limit' first' second') := by
  have hin : Criteria.SameConditions (.object [("in", .list [first, second])])
      (.object [("in", .list [first', second'])]) :=
    .object (.cons ⟨rfl, .list (.cons hfirst (.cons hsecond .nil))⟩ .nil)
  have hnested : Criteria.SameQuery
      (.object [("a", .object [("in", .list [first, second])]), ("b", .object [("!=", .null)])])
      (.object [("a", .object [("in", .list [first', second'])]),
        ("b", .object [("!=", .null)])]) :=
    .named rfl rfl (.cons (.field (by decide) hin) (.cons (.same _) .nil))
  exact .updateAll (.object rfl)
    (.named rfl rfl
      (.cons (.count (.inl rfl) (.whole limit limit')) (.cons (.nested hnested) .nil)))

def quietWorld : Remote.ScriptedWorld := newWorld ⟨[], none, []⟩ true false ["user"]

def mildChange : Operation := changeOf (.int 1) .null 5 (.int 2) (.text "x")

/-- The same change with texts that look like parts of a statement. -/
def hostileChange : Operation :=
  changeOf (.text "1); DROP TABLE user") (.list [.bool true]) 7 (.text "1) OR (1=1") (.int 3)

/-- Both changes are sent with the same text. -/
theorem values_never_sent_as_text_hostileChange :
    SameAnswers Remote.Script.answer Remote.Script.answer ∧
      (∀ m, (MapperSource.described (.text "User")).resolve = .ok m → m.idAttribute = "_id") ∧
      mildChange.SameShape "_id" hostileChange ∧ quietWorld.Alike quietWorld ∧
      ((mildChange.task false (.described (.text "User"))).run Remote.Script.answer
          quietWorld).2.calls.map Call.sql =
        ((hostileChange.task false (.described (.text "User"))).run Remote.Script.answer
          quietWorld).2.calls.map Call.sql ∧
      ((mildChange.task false (.described (.text "User"))).run Remote.Script.answer
          quietWorld).2.calls.map Call.sql =
        ["UPDATE user SET name=?, mail=? WHERE rowid IN (SELECT rowid \nFROM user " ++
          "\nWHERE a IN (?, ?) AND b IS NOT NULL\n LIMIT ? OFFSET ?)"] := by
  have hsource : ∀ m, (MapperSource.described (.text "User")).resolve = .ok m →
      m.idAttribute = "_id" := by
    rintro m ⟨⟩
    rfl
  have hshape : mildChange.SameShape "_id" hostileChange :=
    sameShape_changeOf (.scalar rfl rfl) (.scalar rfl rfl) "_id"
  have hworld : quietWorld.Alike quietWorld := ⟨rfl, rfl, rfl⟩
  refine ⟨sameAnswers_script, hsource, hshape, hworld, ?_, by decide +kernel⟩
  exact (values_never_sent_as_text sameAnswers_script false hsource hshape hworld).1

end SqlBridge.Adapter
