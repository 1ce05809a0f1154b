import SqlBridge.Proofs.Registry.Calls
import SqlBridge.Proofs.Remote.Catalog

/-!
Names learned by a reading of the catalog. They are the names of the answer, in order, before the
first one without a key; a reading without an answer learns none. A catalog of the names learned by
another reading is read without failure.
-/

namespace SqlBridge

namespace Remote

open Validation

/-- A catalog with one row for each name. -/
def rowsOf (names : List Value) : List Value := names.map fun v => .object [("name", v)]

namespace Script

/-- The names that a reading of the catalog learns, even if it fails afterwards. -/
def learned (s : Script) : List Value := (Registry.learnable s.listed).1

theorem learned_eq {s s' : Script} (hcatalog : s.catalog = s'.catalog)
    (herror : s.catalogError = s'.catalogError) : s.learned = s'.learned := by
  unfold learned
  rw [listed_eq hcatalog herror]

theorem learned_of_answered {s : Script} {r : QueryResult}
    (h : s.catalogResult catalogSql = .ok r) :
    s.learned = (Registry.learnable r.tableNames).1 := by
  unfold learned listed
  rw [h]

theorem learned_of_unanswered {s : Script} {f : Failure}
    (h : s.catalogResult catalogSql = .error f) : s.learned = [] := by
  unfold learned listed
  rw [h]
  rfl

theorem key?_of_mem_learned {s : Script} : ∀ name ∈ s.learned, name.key?.isSome = true :=
  fun _ hname => List.mem_takeWhile_imp (p := fun v : Value => v.key?.isSome) hname

theorem truthy_of_mem_learned {s : Script} : ∀ name ∈ s.learned, name.truthy = true := by
  intro name hname
  have hlisted : name ∈ s.listed := (List.takeWhile_sublist _).mem hname
  unfold listed at hlisted
  cases hread : s.catalogResult catalogSql with
  | error f => simp [hread] at hlisted
  | ok r =>
    simp only [hread, QueryResult.tableNames, List.mem_filter] at hlisted
    exact hlisted.2

end Script

theorem each_rows (names : List Value) (start : Nat) :
    each (fun (v, i) => within (.index i) (object v)) ((rowsOf names).zipIdx start) =
      .ok (names.map fun v => [("name", v)]) := by
  induction names generalizing start with
  | nil => rfl
  | cons v rest ih =>
    simp only [rowsOf, List.map_cons, List.zipIdx_cons, each]
    have hrest := ih (start + 1)
    unfold rowsOf at hrest
    rw [hrest]
    rfl

namespace Script

/-- A catalog of texts has one row for each of them. -/
theorem catalogResult_texts (tables : List String) (replies replies' : List Reply) :
    catalogResult ⟨tables.map .text, none, replies⟩ catalogSql =
      catalogResult ⟨rowsOf (tables.map .text), none, replies'⟩ catalogSql := by
  simp [catalogResult, rowsOf, catalogRow, Function.comp_def]

/-- A catalog with one row for each name lists the names. -/
theorem catalogResult_rowsOf (names : List Value) (replies : List Reply) :
    catalogResult ⟨rowsOf names, none, replies⟩ catalogSql =
      .ok ⟨names.map fun v => [("name", v)], [], none, []⟩ := by
  have hrows : (rowsOf names).map catalogRow = rowsOf names := by
    simp [rowsOf, catalogRow, Function.comp_def]
  have hread : eachIndexed object (rowsOf names) = .ok (names.map fun v => [("name", v)]) :=
    each_rows names 0
  simp only [catalogResult, hrows, QueryResult.read_rows, hread]
  rfl

theorem tableNames_rowsOf (names : List Value) :
    QueryResult.tableNames ⟨names.map fun v => [("name", v)], [], none, []⟩ =
      names.filter Value.truthy := by
  have hfield : ∀ v : Value, Value.field [("name", v)] "name" = v := fun v => by
    simp [Value.field, Fields.get?]
  simp only [QueryResult.tableNames, List.map_map, Function.comp_def, hfield, List.map_id']

/-- The names of a catalog of learned names are these names. -/
theorem tableNames_rowsOf_learned (s : Script) :
    QueryResult.tableNames ⟨s.learned.map fun v => [("name", v)], [], none, []⟩ = s.learned := by
  rw [tableNames_rowsOf]
  exact List.filter_eq_self.mpr truthy_of_mem_learned

theorem learned_rowsOf (s : Script) (replies : List Reply) :
    learned ⟨rowsOf s.learned, none, replies⟩ = s.learned := by
  rw [learned_of_answered (catalogResult_rowsOf s.learned replies),
    tableNames_rowsOf_learned, Registry.learnable_of_forall key?_of_mem_learned]

end Script

end Remote

namespace Registry

open Remote

/-- A reading changes the known tables only. -/
theorem registry_seed (w : ScriptedWorld) :
    (seed.run Script.answer w).2.registry =
      { w.registry with known := w.registry.known.insertAll w.remote.learned } := by
  obtain ⟨log, hrun⟩ := exists_run_seed Script.answer w
  rw [hrun, Script.answer_catalog]
  unfold Script.learned Script.listed
  cases w.remote.catalogResult catalogSql <;> rfl

theorem remote_seed (w : ScriptedWorld) : (seed.run Script.answer w).2.remote = w.remote := by
  obtain ⟨log, hrun⟩ := exists_run_seed Script.answer w
  rw [hrun, Script.answer_catalog]
  cases w.remote.catalogResult catalogSql <;> rfl

/-- The outcome of a reading depends on the catalog only. -/
theorem outcome_seed_congr {w w' : ScriptedWorld} (hcatalog : w.remote.catalog = w'.remote.catalog)
    (herror : w.remote.catalogError = w'.remote.catalogError) :
    (seed.run Script.answer w).1 = (seed.run Script.answer w').1 := by
  simp only [outcome_seed, Script.answer_catalog, Script.catalogResult, hcatalog, herror]

/-- A catalog of names learned by another reading is read without failure. -/
theorem outcome_seed_rowsOf (s : Script) {w : ScriptedWorld}
    (hcatalog : w.remote.catalog = rowsOf s.learned) (herror : w.remote.catalogError = none) :
    (seed.run Script.answer w).1 = .ok s.learned.length := by
  have hresult : w.remote.catalogResult catalogSql =
      .ok ⟨s.learned.map fun v => [("name", v)], [], none, []⟩ := by
    rw [← Script.catalogResult_rowsOf s.learned w.remote.replies, ← hcatalog, ← herror]
  rw [outcome_seed, Script.answer_catalog, hresult]
  simp only [Script.tableNames_rowsOf_learned,
    learnable_of_forall Script.key?_of_mem_learned, if_true]

end Registry

end SqlBridge
