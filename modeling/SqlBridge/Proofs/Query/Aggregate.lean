import Mathlib.Algebra.BigOperators.Group.List.Basic
import SqlBridge.Adapter.Session
import SqlBridge.Proofs.Adapter.Answering
import SqlBridge.Proofs.Query.Rows
import SqlBridge.Proofs.Sql.Engine

/-!
Counts and sums compared with the rows of the same query. All three statements have the same
clauses, so a limit and an offset apply to the single row of the aggregate as they apply to the
rows. The results agree exactly when the page includes all selected rows, or none.
-/

namespace SqlBridge

namespace Sql

/-- A remote side that answers selections as an engine evaluates them. -/
def Engine.Serves {σ : Type} (engine : Engine) (content : List Row) (answer : Executor σ)
    (remote : σ) (s : Selection) : Prop :=
  ∀ f, (Statement.select s).render = .ok f →
    ∃ r, (answer ⟨f.text, f.params⟩ remote).1 = .ok r ∧ r.rows = engine.read content s

theorem amounts_of_null {name : String} {rows : List Row}
    (h : ∀ row ∈ rows, Value.field row name = .null) : amounts name rows = 0 := by
  refine List.sum_eq_zero fun n hn => ?_
  obtain ⟨row, hrow, rfl⟩ := List.mem_map.mp hn
  simp only [amount, h row hrow]

/-- The total of whole numbers is read as their sum, including the empty one. -/
theorem Engine.firstValue_total (engine : Engine) {name : String} {rows : List Row}
    (h : IsWhole name rows) :
    Adapter.firstValue "sum" [[("sum", engine.total (.named name) rows)]] =
      .int (amounts name rows) := by
  obtain ⟨hnull, hsome⟩ := engine.total_whole name rows h
  by_cases hall : ∀ row ∈ rows, Value.field row name = .null
  · rw [hnull hall, amounts_of_null hall]
    rfl
  · push Not at hall
    rw [hsome hall]
    cases amounts name rows with
    | ofNat n => cases n <;> rfl
    | negSucc n => rfl

end Sql

namespace Criteria

open Sql Adapter

/-- The rows of a query are read by a selection that can be rendered. -/
def Compiles (query : Value) (table : String) (s : Selection) : Prop :=
  ∃ c f, empty.compile query = .ok c ∧ c.select .everything table = .ok s ∧
    (Statement.select s).render = .ok f

variable {query : Value} {selection : Selection}

/-- Selections under the same criteria differ in their columns only. -/
theorem select_projection {c : Criteria} {table : String}
    (h : c.select .everything table = .ok selection) (projection : Projection) :
    c.select projection table = .ok { selection with projection } := by
  obtain ⟨page, hpage, heq⟩ := Outcome.bind_eq_ok_iff.mp h
  cases heq
  unfold select
  rw [hpage]
  rfl

/-- If the rows of a query can be read, so can any columns that can be rendered. -/
theorem Compiles.exists_written {table : String} (h : Compiles query table selection)
    {projection : Projection} {columns : String} (hcolumns : projection.render = .ok columns) :
    ∃ f, (Statement.select { selection with projection }).render = .ok f ∧
      (empty.compile query >>= fun c =>
        (c.select projection table).map Statement.select >>= fun s => s.render) = .ok f := by
  obtain ⟨c, f, hcompile, hselect, hrender⟩ := h
  have heverything : Projection.everything.render = .ok "*" := rfl
  have hrows := c.read_eq table heverything
  rw [hselect, Outcome.map_ok, Outcome.ok_bind, hrender] at hrows
  obtain ⟨rows, hrows, -⟩ := Outcome.map_eq_ok_iff.mp hrows.symm
  have hwritten := c.read_eq table hcolumns
  rw [hrows, Outcome.map_ok] at hwritten
  refine ⟨_, ?_, by rw [hcompile, Outcome.ok_bind, hwritten]⟩
  rwa [select_projection hselect, Outcome.map_ok, Outcome.ok_bind] at hwritten

section

variable {σ : Type} {answer : Executor σ} {w : World σ} {source : MapperSource}
  {m : Schema.Mapper} (engine : Engine) (content : List Row)

/-- The rows of a query are the page of the rows that it selects, in its order. -/
theorem answers_findAll (hm : source.resolve = .ok m)
    (hknown : w.registry.known.contains (.text m.tableName) = true) (dbg : Bool)
    (h : Compiles query m.tableName selection)
    (hserves : engine.Serves content answer w.remote { selection with projection := .everything }) :
    Answers answer w dbg source (.findAll query)
      (.list ((selection.page.cut (engine.arranged content selection)).map .object)) := by
  have hcolumns : Projection.everything.render = .ok "*" := rfl
  obtain ⟨f, hrender, hwritten⟩ := h.exists_written hcolumns
  obtain ⟨r, hanswer, hrows⟩ := hserves f hrender
  refine ⟨_, outcome_of_query hm hknown hwritten hanswer dbg _ _ _ _, ?_⟩
  change Value.list (r.rows.map .object) = _
  rw [hrows]
  rfl

/-- The count of a query is the number of all rows that it selects if its page includes the first
row, and zero otherwise. -/
theorem answers_count (hm : source.resolve = .ok m)
    (hknown : w.registry.known.contains (.text m.tableName) = true) (dbg : Bool)
    (h : Compiles query m.tableName selection)
    (hserves : engine.Serves content answer w.remote { selection with projection := .count }) :
    Answers answer w dbg source (.count query) (.int
      (if selection.page.takesFirst then
        (engine.arranged content selection).length else 0 : ℕ)) := by
  have hcolumns : Projection.count.render = .ok "count(*) AS count" := rfl
  obtain ⟨f, hrender, hwritten⟩ := h.exists_written hcolumns
  obtain ⟨r, hanswer, hrows⟩ := hserves f hrender
  refine ⟨_, outcome_of_query hm hknown hwritten hanswer dbg _ _ _ _, ?_⟩
  have hlength : (engine.kept content selection).length =
      (engine.arranged content selection).length := (engine.perm_arrange _ _).length_eq.symm
  change firstValue "count" r.rows = _
  rw [hrows, Engine.read, Engine.projected, Page.cut_singleton]
  split_ifs
  · change firstValue "count" [[("count", .int (engine.kept content selection).length)]] = _
    rw [hlength]
    cases (engine.arranged content selection).length <;> rfl
  · rfl

/-- The sum of a column of whole numbers is the sum over all rows that a query selects if its page
includes the first row, and zero otherwise. -/
theorem answers_sum (hm : source.resolve = .ok m)
    (hknown : w.registry.known.contains (.text m.tableName) = true) (dbg : Bool)
    (h : Compiles query m.tableName selection) {field : String} (hfield : IsWhole field content)
    (hserves : engine.Serves content answer w.remote
      { selection with projection := .sum (.named field) }) :
    Answers answer w dbg source (.sum (.text field) query) (.int
      (if selection.page.takesFirst then
        amounts field (engine.arranged content selection) else 0)) := by
  have hcolumns : (Projection.sum (.named field)).render =
      .ok ("sum(" ++ identifier field ++ ") AS sum") := rfl
  obtain ⟨f, hrender, hwritten⟩ := h.exists_written hcolumns
  obtain ⟨r, hanswer, hrows⟩ := hserves f hrender
  refine ⟨_, outcome_of_query hm hknown hwritten hanswer dbg _ _ _ _, ?_⟩
  have hkept : IsWhole field (engine.kept content selection) := fun row hrow =>
    hfield row (List.mem_of_mem_filter hrow)
  have hamounts : amounts field (engine.kept content selection) =
      amounts field (engine.arranged content selection) :=
    ((engine.perm_arrange _ _).map _).sum_eq.symm
  change firstValue "sum" r.rows = _
  rw [hrows, Engine.read, Engine.projected, Page.cut_singleton]
  split_ifs
  · exact (engine.firstValue_total hkept).trans (congrArg Value.int hamounts)
  · rfl

/-- For a page of all rows or of none, the sum over the page is the sum over all rows, or zero when
the first row is not included. -/
theorem amounts_cut (page : Page) (field : String) {rows : List Row}
    (h : page.cut rows = rows ∨ page.cut rows = []) :
    (if page.takesFirst then amounts field rows else 0) = amounts field (page.cut rows) := by
  have hcount := (page.count_agrees_iff rows).mpr h
  split_ifs at hcount ⊢ with hfirst
  · have hall : page.cut rows = rows := (page.cut_sublist rows).eq_of_length hcount.symm
    rw [hall]
  · rw [List.length_eq_zero_iff.mp hcount.symm]
    rfl

/-- The page of a query applies to the one row of its count and of its sum, and to its rows one by
one. So they agree with the rows exactly when the page includes all selected rows or none, as it
does without limit and offset. -/
theorem aggregates_follow_rows (hm : source.resolve = .ok m)
    (hknown : w.registry.known.contains (.text m.tableName) = true) (dbg : Bool)
    (h : Compiles query m.tableName selection) (field : String)
    (hserves : ∀ projection ∈ [.everything, .count, .sum (.named field)],
      engine.Serves content answer w.remote { selection with projection }) :
    ∃ found : List Row, found = selection.page.cut (engine.arranged content selection) ∧
      (selection.page = ⟨none, none⟩ → found = engine.arranged content selection) ∧
      Answers answer w dbg source (.findAll query) (.list (found.map .object)) ∧
      (∃ n : ℕ, Answers answer w dbg source (.count query) (.int n) ∧
        (n = found.length ↔ found = engine.arranged content selection ∨ found = [])) ∧
      (IsWhole field content →
        ∃ total, Answers answer w dbg source (.sum (.text field) query) (.int total) ∧
          (found = engine.arranged content selection ∨ found = [] →
            total = amounts field found)) := by
  refine ⟨_, rfl, fun hpage => ?_,
    answers_findAll engine content hm hknown dbg h (hserves _ (by simp)), ⟨_,
      answers_count engine content hm hknown dbg h (hserves _ (by simp)),
      Page.count_agrees_iff _ _⟩, fun hfield => ⟨_,
      answers_sum engine content hm hknown dbg h hfield (hserves _ (by simp)),
      amounts_cut _ field⟩⟩
  rw [hpage]
  exact Page.cut_whole _

end

theorem isNull_iff {v : Value} : v.isNull = true ↔ v = .null := by cases v <;> simp [Value.isNull]

/-- An engine for lower bounds of whole numbers and one order, the descending one. -/
def boundEngine : Engine where
  holds p row :=
    match p with
    | .compare (.named name) .greaterOrEqual (.int n) => n ≤ amount name row
    | _ => true
  arrange orders rows := if orders.isEmpty then rows else rows.reverse
  perm_arrange orders rows := by
    split_ifs
    · exact List.Perm.refl rows
    · exact rows.reverse_perm
  total column rows :=
    match column with
    | .named name =>
      if rows.all fun row => (Value.field row name).isNull then .null else .int (amounts name rows)
    | _ => .null
  total_whole name rows _ := by
    have hnull : (rows.all fun row => (Value.field row name).isNull) = true ↔
        ∀ row ∈ rows, Value.field row name = .null := by
      simp only [List.all_eq_true, isNull_iff]
    exact ⟨fun hall => if_pos (hnull.mpr hall),
      fun ⟨row, hrow, hsome⟩ => if_neg fun hall => hsome (hnull.mp hall row hrow)⟩

/-- A remote side that answers given selections as an engine evaluates them. -/
def serving (engine : Engine) (content : List Row) (selections : List Selection) :
    Executor Unit := fun call remote =>
  match selections.find? fun s => (Statement.select s).render.toOption.any (·.text = call.sql) with
  | some s => (.ok ⟨engine.read content s, [], none, []⟩, remote)
  | none => (.ok .empty, remote)

def numberedRows : List Row := [[("n", .int 1)], [("n", .int 2)], [("n", .int 3)]]

/-- At most five rows with `n` from two on, in descending order. -/
def boundQuery : Value :=
  .object [("limit", .int 5), ("orderBy", .list [.list [.text "n", .text "desc"]]),
    ("n", .object [(">=", .int 2)])]

def boundSelection : Selection :=
  ⟨.everything, "user", [.compare (.named "n") .greaterOrEqual (.int 2)], [⟨.named "n", true⟩],
    ⟨some 5, none⟩⟩

/-- All rows but the first. -/
def skippingQuery : Value := .object [("offset", .int 1)]

def skippingSelection : Selection := ⟨.everything, "user", [], [], ⟨none, some 1⟩⟩

def numberedServer : Executor Unit :=
  serving boundEngine numberedRows ([boundSelection, skippingSelection].flatMap fun s =>
    [.everything, .count, .sum (.named "n")].map fun projection => { s with projection })

theorem serves_numbered {s : Selection} (hs : s = boundSelection ∨ s = skippingSelection) :
    ∀ projection ∈ [.everything, .count, .sum (.named "n")],
      boundEngine.Serves numberedRows numberedServer () { s with projection } := by
  intro projection hprojection
  simp only [List.mem_cons, List.not_mem_nil, or_false] at hprojection
  rcases hs with rfl | rfl <;> rcases hprojection with rfl | rfl | rfl
  all_goals
    intro f hf
    cases hf
    exact ⟨_, rfl, rfl⟩

theorem isWhole_numberedRows : IsWhole "n" numberedRows := by
  simp [IsWhole, numberedRows, Value.field, Fields.get?]

def numberedWorld : World Unit := newWorld () false false ["user"]

def numberedMapper : Schema.Mapper := Schema.Mapper.ofName "User"

/-- A page with room for more includes both selected rows, and their number and their sum agree. -/
theorem aggregates_follow_rows_bound :
    numberedWorld.registry.known.contains (.text numberedMapper.tableName) = true ∧
      Compiles boundQuery numberedMapper.tableName boundSelection ∧
      IsWhole "n" numberedRows ∧
      Answers numberedServer numberedWorld false (.ready numberedMapper) (.findAll boundQuery)
        (.list [.object [("n", .int 3)], .object [("n", .int 2)]]) ∧
      Answers numberedServer numberedWorld false (.ready numberedMapper) (.count boundQuery)
        (.int 2) ∧
      Answers numberedServer numberedWorld false (.ready numberedMapper)
        (.sum (.text "n") boundQuery) (.int 5) := by
  have hready : (MapperSource.ready numberedMapper).resolve = .ok numberedMapper := rfl
  have hknown : numberedWorld.registry.known.contains (.text numberedMapper.tableName) = true := rfl
  have hcompiles : Compiles boundQuery numberedMapper.tableName boundSelection :=
    ⟨_, _, rfl, rfl, rfl⟩
  obtain ⟨found, hfound, -, hrows, ⟨n, hcount, hagrees⟩, hsum⟩ :=
    aggregates_follow_rows boundEngine numberedRows hready hknown false hcompiles "n"
      (serves_numbered (.inl rfl))
  obtain ⟨total, hsum, htotal⟩ := hsum isWhole_numberedRows
  have hall : found = boundEngine.arranged numberedRows boundSelection := hfound
  have hn : n = 2 := (hagrees.mpr (.inl hall)).trans (congrArg List.length hall)
  have hfive : total = 5 := (htotal (.inl hall)).trans (congrArg (amounts "n") hall)
  subst hn hfive
  rw [hall] at hrows
  exact ⟨hknown, hcompiles, isWhole_numberedRows, hrows, hcount, hsum⟩

/-- With a page that skips a row, the rows are returned, but count and sum are zero. -/
theorem skipping_page_hides_aggregates :
    Compiles skippingQuery numberedMapper.tableName skippingSelection ∧
      IsWhole "n" numberedRows ∧
      (∀ projection ∈ [.everything, .count, .sum (.named "n")],
        boundEngine.Serves numberedRows numberedServer ()
          { skippingSelection with projection }) ∧
      Answers numberedServer numberedWorld false (.ready numberedMapper) (.findAll skippingQuery)
        (.list [.object [("n", .int 2)], .object [("n", .int 3)]]) ∧
      Answers numberedServer numberedWorld false (.ready numberedMapper) (.count skippingQuery)
        (.int 0) ∧
      Answers numberedServer numberedWorld false (.ready numberedMapper)
        (.sum (.text "n") skippingQuery) (.int 0) :=
  ⟨⟨_, _, rfl, rfl, rfl⟩, isWhole_numberedRows, serves_numbered (.inr rfl), ⟨_, rfl, rfl⟩,
    ⟨_, rfl, rfl⟩, ⟨_, rfl, rfl⟩⟩

end Criteria

end SqlBridge
