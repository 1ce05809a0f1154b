import SqlBridge.Adapter.Session
import SqlBridge.Proofs.Adapter.Discipline
import SqlBridge.Proofs.Schema.Column

/-!
The identifying column in the table and in the statements. In the provisioned table it is the only
primary key, unless it is declared after another column. The operations on one record select the
record by it, and the new id of a record is stored under its name.
-/

namespace SqlBridge

namespace Sql

def Predicate.column : Predicate → ColumnName
  | .isNull column _ => column
  | .isTruth column _ _ => column
  | .compare column _ _ => column
  | .member column _ _ => column

end Sql

open Sql

theorem Criteria.column_comparison {column : ColumnName} {relation : Relation} {operand : Value}
    {p : Predicate} (h : comparison column relation operand = .ok p) : p.column = column := by
  unfold comparison at h
  split at h
  · split at h <;> cases h <;> rfl
  · split at h <;> cases h <;> rfl
  · split_ifs at h
    cases h
    rfl

/-- The parts of a successful sequence have succeeded, one after another. -/
theorem Task.exists_run_of_bind {σ α β : Type} {answer : Executor σ} {t : Task α}
    {k : α → Task β} {w : World σ} {b : β} (h : ((t >>= k).run answer w).1 = .ok b) :
    ∃ a after, t.run answer w = (.ok a, after) ∧ ((k a).run answer after).1 = .ok b := by
  rw [Task.run_bind] at h
  cases ht : t.run answer w with
  | mk o after =>
    rw [ht] at h
    cases o with
    | ok a => exact ⟨a, after, rfl, h⟩
    | error f => cases h

namespace Adapter

open Schema

theorem key_eq {m : Mapper} (hid : m.idAttribute ≠ "") : m.key = m.idAttribute := by
  simp [Mapper.key, effectiveId, String.isEmpty_iff, hid]

/-- The predicate of an identified record is on the identifying column. -/
theorem predicates_of_identified {m : Mapper} {id : Value} {p : Predicate}
    (hid : m.idAttribute ≠ "") (h : identified m id = .ok p) : p.column = .named m.key := by
  rw [key_eq hid]
  exact Criteria.column_comparison h

theorem predicates_findStatement {m : Mapper} {id : Value} {s : Statement}
    (hid : m.idAttribute ≠ "") (h : findStatement m id = .ok s) :
    ∃ p, s.predicates = [p] ∧ p.column = .named m.key := by
  obtain ⟨p, hp, heq⟩ := Outcome.bind_eq_ok_iff.mp h
  cases heq
  exact ⟨p, rfl, predicates_of_identified hid hp⟩

/-- The operations on one record select it by the identifying column. -/
theorem predicates_of_mem_statements {m : Mapper} (hid : m.idAttribute ≠ "") {id props : Value}
    {o : Operation} (ho : o ∈ [.find id, .update id props, .destroy id]) {s : Statement}
    (h : .ok s ∈ o.statements m) : ∃ p, s.predicates = [p] ∧ p.column = .named m.key := by
  simp only [List.mem_cons, List.not_mem_nil, or_false] at ho
  rcases ho with rfl | rfl | rfl
  · exact predicates_findStatement hid (List.mem_singleton.mp h).symm
  · simp only [Operation.statements, changeStatements] at h
    split_ifs at h
    · rcases List.mem_cons.mp h with hupdate | h
      · simp only [updateStatement, eq_comm (a := Except.ok s), Outcome.bind_eq_ok_iff] at hupdate
        obtain ⟨-, -, p, hp, fields, -, heq⟩ := hupdate
        cases heq
        exact ⟨p, rfl, predicates_of_identified hid hp⟩
      · exact predicates_findStatement hid (List.mem_singleton.mp h).symm
    · cases List.mem_singleton.mp h
  · obtain ⟨p, hp, heq⟩ := Outcome.bind_eq_ok_iff.mp (List.mem_singleton.mp h).symm
    cases heq
    exact ⟨p, rfl, predicates_of_identified hid hp⟩

variable {σ : Type} {answer : Executor σ} {w : World σ}

/-- A call whose statement has exactly one condition, on the given column. -/
def TellsApartBy (name : String) (call : Call) : Prop :=
  ∃ (s : Statement) (f : Fragment Value) (p : Predicate), s.render = .ok f ∧
    call = ⟨f.text, f.params⟩ ∧ s.predicates = [p] ∧ p.column = .named name

/-- Every data statement of an operation on one record selects by the identifying column. -/
theorem tellsApartBy_sent (answer : Executor σ) (dbg : Bool) {source : MapperSource} {m : Mapper}
    (hsource : source.resolve = .ok m) (hid : m.idAttribute ≠ "") {id props : Value} {o : Operation}
    (ho : o ∈ [.find id, .update id props, .destroy id]) (w : World σ) :
    ∃ calls, ((o.task dbg source).run answer w).2.calls = w.calls ++ calls ∧
      ∀ call ∈ dataCalls calls, TellsApartBy m.key call := by
  obtain ⟨calls, hcalls, hbegin⟩ := exists_calls_task answer dbg hsource o w
  refine ⟨calls, hcalls, fun call hcall => ?_⟩
  obtain ⟨s, f, hs, hrender, heq⟩ := mem_writable (hbegin.mem hcall)
  obtain ⟨p, hp, hcolumn⟩ := predicates_of_mem_statements hid ho hs
  exact ⟨s, f, p, hrender, heq, hp, hcolumn⟩

/-- Ensuring an unknown table sends its provisioning statement and nothing else. -/
theorem calls_ensureMapper {m : Mapper} {sql : String} (hsql : m.createTable = .ok sql)
    (hunknown : w.registry.known.contains (.text m.tableName) = false)
    (hauto : w.registry.autocreate = true) :
    ((Registry.ensureMapper m).run answer w).2.calls = w.calls ++ [⟨sql, []⟩] := by
  rw [Registry.ensureMapper, Registry.ensure_eq, hsql]
  simp only [Task.run, hunknown, hauto, Bool.false_eq_true, if_false, if_true, Registry.provision,
    ofChecked, World.remote_note]
  rcases answer ⟨sql, []⟩ w.remote with ⟨_ | _, remote⟩ <;> rfl

/-- An operation continues with the mapper to which its source resolves. -/
theorem resolve_of_prepare {source : MapperSource} {m : Mapper}
    (h : ((prepare source).run answer w).1 = .ok m) : source.resolve = .ok m := by
  obtain ⟨-, w₁, -, h⟩ := Task.exists_run_of_bind h
  obtain ⟨found, w₂, hfound, h⟩ := Task.exists_run_of_bind h
  obtain ⟨-, w₃, -, h⟩ := Task.exists_run_of_bind h
  cases h
  rw [Task.run_ofOutcome] at hfound
  exact congrArg Prod.fst hfound

/-- A new record is returned with its id under the identifying name. -/
theorem exists_record_of_create {source : MapperSource} {m : Mapper} {dbg : Bool} {props : Value}
    {reply : Reply} (hsource : source.resolve = .ok m) (hid : m.idAttribute ≠ "")
    (h : (((Operation.create props).task dbg source).run answer w).1 = .ok reply) :
    ∃ record, newRecord props = .ok record ∧
      reply.data = .object (withId record m.key (Value.field reply.metadata "last_row_id")) := by
  obtain ⟨found, w₁, hprepare, h⟩ := Task.exists_run_of_bind h
  obtain ⟨-, w₂, -, h⟩ := Task.exists_run_of_bind h
  obtain ⟨record, w₃, hrecord, h⟩ := Task.exists_run_of_bind h
  obtain ⟨result, w₄, -, h⟩ := Task.exists_run_of_bind h
  obtain ⟨-, w₅, -, h⟩ := Task.exists_run_of_bind h
  cases h
  rw [Task.run_ofOutcome] at hrecord
  have hfound : source.resolve = .ok found := resolve_of_prepare (congrArg Prod.fst hprepare)
  rw [hsource] at hfound
  cases hfound
  rw [key_eq hid]
  exact ⟨record, congrArg Prod.fst hrecord, rfl⟩

/-- The identifying column of a mapper in its statements. In the provisioned table it is the only
key, an integer unless it is declared as text; declared after another column it is not defined, and
the table has no key. The operations on one record select by the name of this column, and the new id
of a record is stored under it. -/
theorem provisioned_key_identifies (m : Mapper) :
    ∃ sql, m.createTable = .ok sql ∧
      sql = "CREATE TABLE IF NOT EXISTS " ++ m.tableName ++ " ("
        ++ ", ".intercalate (m.columns.map Column.text) ++ ")" ∧
      (∀ {σ : Type} (answer : Executor σ) (w : World σ),
        w.registry.known.contains (.text m.tableName) = false → w.registry.autocreate = true →
          ((Registry.ensureMapper m).run answer w).2.calls = w.calls ++ [⟨sql, []⟩]) ∧
      (¬m.DeclaresKeyLate → ∃ c rest, m.columns = c :: rest ∧ c.name = m.key ∧ c.isKey = true ∧
        (¬m.DeclaresKeyAsText → c.type = "INTEGER") ∧
          ∀ other ∈ rest, other.name ≠ m.key ∧ other.isKey = false) ∧
      (m.DeclaresKeyLate → ∀ c ∈ m.columns, c.name ≠ m.key ∧ c.isKey = false) ∧
      (m.idAttribute ≠ "" → m.key = m.idAttribute ∧
        (∀ {σ : Type} (answer : Executor σ) (w : World σ) (dbg : Bool) (source : MapperSource)
          (id props : Value), ∀ o ∈ [Operation.find id, .update id props, .destroy id],
            source.resolve = .ok m →
              ∃ calls, ((o.task dbg source).run answer w).2.calls = w.calls ++ calls ∧
                ∀ call ∈ dataCalls calls, TellsApartBy m.key call) ∧
        ∀ {σ : Type} (answer : Executor σ) (w : World σ) (dbg : Bool) (source : MapperSource)
          (props : Value) (reply : Reply), source.resolve = .ok m →
            (((Operation.create props).task dbg source).run answer w).1 = .ok reply →
              ∃ record, newRecord props = .ok record ∧
                reply.data =
                  .object (withId record m.key (Value.field reply.metadata "last_row_id"))) := by
  refine ⟨_, m.createTable_eq, rfl, fun answer w => calls_ensureMapper m.createTable_eq,
    Mapper.exists_columns_eq, Mapper.columns_of_declaresKeyLate, fun hid => ⟨?_, ?_, ?_⟩⟩
  · exact key_eq hid
  · exact fun answer w dbg source id props o ho hsource =>
      tellsApartBy_sent answer dbg hsource hid ho w
  · exact fun answer w dbg source props reply hsource => exists_record_of_create hsource hid

def textField : Field := ⟨.named "string", false, false, false, none, []⟩

def wholeField : Field := ⟨.named "integer", false, false, true, none, []⟩

/-- A mapper whose identifying column is declared first. -/
def postMapper : Mapper := ⟨"Post", "id", none, [("id", wholeField), ("title", textField)]⟩

def postWorld : World Unit := newWorld () true false []

/-- A remote side that gives the same id to every new record. -/
def fourthRow : Executor Unit := fun _ _ => (.ok ⟨[], [("last_row_id", .int 4)], none, []⟩, ())

theorem provisioned_key_identifies_declared :
    ¬postMapper.DeclaresKeyLate ∧ ¬postMapper.DeclaresKeyAsText ∧
      ((Registry.ensureMapper postMapper).run fourthRow postWorld).2.calls =
        [⟨"CREATE TABLE IF NOT EXISTS post (id INTEGER PRIMARY KEY AUTOINCREMENT UNIQUE, title TEXT)",
          []⟩] ∧
      (∃ c rest, postMapper.columns = c :: rest ∧ c.name = "id" ∧ c.isKey = true ∧
        c.type = "INTEGER") ∧
      (∃ call, (((Operation.find (.int 7)).task false (.ready postMapper)).run fourthRow
          (newWorld () false false ["post"])).2.calls = [call] ∧ TellsApartBy "id" call) ∧
      ∃ reply, (((Operation.create (.object [("title", .text "a")])).task false
        (.ready postMapper)).run fourthRow postWorld).1 = .ok reply ∧
          reply.data = .object [("title", .text "a"), ("id", .int 4)] := by
  have hfirst : ¬postMapper.DeclaresKeyLate := fun hlate => hlate.2 rfl
  have hwhole : ¬postMapper.DeclaresKeyAsText := by
    rintro ⟨field, hfield, htype⟩
    cases hfield
    exact htype (by decide)
  obtain ⟨sql, hsql, -, hcalls, hcolumns, -, huses⟩ := provisioned_key_identifies postMapper
  obtain ⟨c, rest, hdefined, hname, hkey, htype, -⟩ := hcolumns hfirst
  obtain ⟨-, hstatements, hcreate⟩ := huses (by decide)
  refine ⟨hfirst, hwhole, ?_, ⟨c, rest, hdefined, hname, hkey, htype hwhole⟩, ?_, ?_⟩
  · rw [hcalls _ postWorld rfl rfl]
    cases hsql
    rfl
  · obtain ⟨calls, hcalls, htells⟩ := hstatements fourthRow (newWorld () false false ["post"])
      false (.ready postMapper) (.int 7) .null (.find (.int 7)) (.head _) rfl
    cases hcalls
    exact ⟨_, rfl, htells _ (.head _)⟩
  · obtain ⟨record, hrecord, hdata⟩ := hcreate fourthRow postWorld false (.ready postMapper)
      (.object [("title", .text "a")]) _ rfl rfl
    cases hrecord
    exact ⟨_, rfl, hdata⟩

/-- A mapper whose identifying column is declared after another one. -/
def lateMapper : Mapper := ⟨"Post", "id", none, [("title", textField), ("id", wholeField)]⟩

/-- An identifying column after another one is not defined, although records are selected by it; one
declared as text is not an integer column. -/
theorem declared_key_missing :
    lateMapper.createTable = .ok "CREATE TABLE IF NOT EXISTS post (title TEXT)" ∧
      lateMapper.columns = [⟨"title", "TEXT", false, false, false, none⟩] ∧
      (findStatement lateMapper (.int 7) >>= fun s => s.render) =
        .ok ⟨"SELECT * \nFROM post \nWHERE id = ?\n LIMIT ? OFFSET ?", [.int 7, .int 1, .int 0]⟩ ∧
      Mapper.createTable ⟨"Post", "id", none, [("id", textField)]⟩ =
        .ok "CREATE TABLE IF NOT EXISTS post (id TEXT PRIMARY KEY AUTOINCREMENT)" :=
  ⟨rfl, rfl, rfl, rfl⟩

end Adapter

end SqlBridge
