import Mathlib.Data.List.TakeWhile
import SqlBridge.Proofs.Task.History
import SqlBridge.Registry

/-!
The calls of a registry. Ensuring a table reads the registry once; an unknown table is provisioned
by one call if provisioning is on, and is added after it. A reading of the catalog is one call, and
its names are added from the answer.
-/

namespace SqlBridge.Registry

/-- Provisions an unknown table by a call and adds it. -/
def provision (ddl : Outcome String) (table : String) : Task Unit :=
  .note (tableEntry "Creating table" table [])
    (match ddl with
    | .error f => .fail f
    | .ok sql => .send ⟨sql, []⟩ fun _ =>
        .note (tableEntry "Table created" table [("sql", .text sql)])
          (.learn [.text table] (.done ())))

/-- Refuses an unknown table. -/
def refuse (table : String) : Task Unit :=
  .note (tableEntry "Table does not exist" table []) (.fail (.tableNotFound table))

theorem ensure_eq (ddl : Validation.Checked String) (table : String) :
    ensure ddl table = .look fun registry =>
      if registry.known.contains (.text table) then .done ()
      else if registry.autocreate then provision (ofChecked ddl) table
      else refuse table := by
  unfold ensure
  refine congrArg Task.look (funext fun registry => ?_)
  simp only [Task.bind]
  by_cases hknown : registry.known.contains (.text table) = true
  · rw [if_pos hknown, if_pos hknown]
    rfl
  · rw [if_neg hknown, if_neg hknown]
    by_cases hauto : registry.autocreate = true
    · rw [if_pos hauto, if_pos hauto]
      unfold provision
      cases ofChecked ddl <;> rfl
    · rw [if_neg hauto, if_neg hauto]
      rfl

/-- Ensuring the table of a mapper, with its continuation. -/
theorem ensureMapper_bind {α : Type} {m : Schema.Mapper} {sql : String}
    (hsql : m.createTable = .ok sql) (k : Unit → Task α) :
    ensureMapper m >>= k = .look fun registry =>
      if registry.known.contains (.text m.tableName) then k ()
      else if registry.autocreate then
        .note (tableEntry "Creating table" m.tableName []) (.send ⟨sql, []⟩ fun _ =>
          .note (tableEntry "Table created" m.tableName [("sql", .text sql)])
            (.learn [.text m.tableName] (k ())))
      else .note (tableEntry "Table does not exist" m.tableName [])
        (.fail (.tableNotFound m.tableName)) := by
  unfold ensureMapper
  rw [ensure_eq, hsql]
  refine congrArg Task.look (funext fun registry => ?_)
  beta_reduce
  by_cases hknown : registry.known.contains (.text m.tableName) = true
  · rw [if_pos hknown, if_pos hknown]
    rfl
  · rw [if_neg hknown, if_neg hknown]
    by_cases hauto : registry.autocreate = true
    · rw [if_pos hauto, if_pos hauto]
      rfl
    · rw [if_neg hauto, if_neg hauto]
      rfl

/-- Adds the names of a reading to the registry. -/
def learnNames (names : List Value) : Task Nat :=
  .learn (learnable names).1
    (if (learnable names).2 then
      .note (Log.Entry.debug logger "Table cache seeded" [("tables", .list names)])
        (.done names.length)
    else .fail (.wrongType (unhashable ((names.drop (learnable names).1.length).headD .null))))

theorem seed_eq :
    seed = .send ⟨Remote.catalogSql, []⟩ fun result => learnNames result.tableNames := by
  unfold seed
  refine congrArg (Task.send _) (funext fun result => ?_)
  simp only [Task.bind, learnNames]
  refine congrArg (Task.learn _) ?_
  by_cases hcomplete : (learnable result.tableNames).2 = true
  · simp only [Task.bind, hcomplete, if_true]
    rfl
  · simp only [Task.bind, if_neg hcomplete]

/-- The history of a reading of the catalog is one exchange. -/
theorem history_seed {σ : Type} (answer : Executor σ) (w : World σ) :
    seed.history answer w = [⟨⟨Remote.catalogSql, []⟩, w.registry,
      (answer ⟨Remote.catalogSql, []⟩ w.remote).1⟩] := by
  rw [seed_eq]
  simp only [Task.history]
  cases answer ⟨Remote.catalogSql, []⟩ w.remote with
  | mk o remote =>
    cases o with
    | error f => rfl
    | ok r =>
      by_cases hcomplete : (learnable r.tableNames).2 = true
      · simp only [learnNames, if_pos hcomplete, Task.history]
      · simp only [learnNames, if_neg hcomplete, Task.history]

/-- A reading records its call. If it is answered, it adds the names before the first one without a
key, and succeeds if there is no such name. -/
theorem exists_run_seed {σ : Type} (answer : Executor σ) (w : World σ) :
    ∃ log, seed.run answer w =
      match answer ⟨Remote.catalogSql, []⟩ w.remote with
      | (.ok r, remote) =>
        (if (learnable r.tableNames).2 then .ok r.tableNames.length
          else .error (.wrongType (unhashable
            ((r.tableNames.drop (learnable r.tableNames).1.length).headD .null))),
          { ({ w.record ⟨Remote.catalogSql, []⟩ with remote } : World σ).learn
              (learnable r.tableNames).1 with log })
      | (.error f, remote) =>
        (.error f, { w.record ⟨Remote.catalogSql, []⟩ with remote, log }) := by
  rw [seed_eq]
  simp only [Task.run]
  cases answer ⟨Remote.catalogSql, []⟩ w.remote with
  | mk o remote =>
    cases o with
    | error f => exact ⟨w.log, rfl⟩
    | ok r =>
      simp only [learnNames]
      by_cases hcomplete : (learnable r.tableNames).2 = true
      · simp only [if_pos hcomplete]
        exact ⟨_, rfl⟩
      · simp only [if_neg hcomplete]
        exact ⟨w.log, rfl⟩

/-- A reading succeeds when every name that it read has a key. -/
theorem outcome_seed {σ : Type} (answer : Executor σ) (w : World σ) :
    (seed.run answer w).1 =
      match (answer ⟨Remote.catalogSql, []⟩ w.remote).1 with
      | .ok r => if (learnable r.tableNames).2 then .ok r.tableNames.length
          else .error (.wrongType (unhashable
            ((r.tableNames.drop (learnable r.tableNames).1.length).headD .null)))
      | .error f => .error f := by
  obtain ⟨log, hrun⟩ := exists_run_seed answer w
  rw [hrun]
  rcases answer ⟨Remote.catalogSql, []⟩ w.remote with ⟨_ | _, remote⟩ <;> rfl

/-- A reading calls the remote side once. -/
theorem remote_run_seed {σ : Type} (answer : Executor σ) (w : World σ) :
    (seed.run answer w).2.remote = (answer ⟨Remote.catalogSql, []⟩ w.remote).2 := by
  obtain ⟨log, hrun⟩ := exists_run_seed answer w
  rw [hrun]
  rcases answer ⟨Remote.catalogSql, []⟩ w.remote with ⟨_ | _, remote⟩ <;> rfl

/-- The names known after a reading: those of its answer are added, and none if it fails. -/
theorem known_seed {σ : Type} (answer : Executor σ) (w : World σ) :
    (seed.run answer w).2.registry.known =
      match (answer ⟨Remote.catalogSql, []⟩ w.remote).1 with
      | .ok r => w.registry.known.insertAll (learnable r.tableNames).1
      | .error _ => w.registry.known := by
  obtain ⟨log, hrun⟩ := exists_run_seed answer w
  rw [hrun]
  rcases answer ⟨Remote.catalogSql, []⟩ w.remote with ⟨_ | _, remote⟩ <;> rfl

/-- Names with keys can all be added. -/
theorem learnable_of_forall {names : List Value} (h : ∀ name ∈ names, name.key?.isSome = true) :
    learnable names = (names, true) := by
  have hall : names.takeWhile (fun v => v.key?.isSome) = names :=
    List.takeWhile_eq_self_iff.mpr h
  simp [learnable, hall]

theorem learnable_of_texts {names : List Value} (h : ∀ name ∈ names, name.isText = true) :
    learnable names = (names, true) := by
  refine learnable_of_forall fun name hname => ?_
  have htext : name.isText = true := h name hname
  cases name with
  | text s => rfl
  | _ => simp [Value.isText] at htext

end SqlBridge.Registry
