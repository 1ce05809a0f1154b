import SqlBridge.Proofs.Query.Levels

/-!
Compiling a query appends to criteria. The demands of its levels become predicates one by one, from
the deepest level outwards, and the entries of their orders become orders, from the outermost level
inwards. So the results of queries compiled one after another are concatenated, and the last limit
and offset given apply, even when they are null.
-/

namespace SqlBridge

namespace Outcome

variable {α β γ : Type}

theorem mapM_eq_ok_iff_forall₂ {g : α → Outcome β} {items : List α} {result : List β} :
    items.mapM g = .ok result ↔ List.Forall₂ (fun a b => g a = .ok b) items result := by
  induction items generalizing result with
  | nil =>
    rw [List.forall₂_nil_left_iff, List.mapM_nil, pure_eq_ok, Except.ok.injEq]
    exact eq_comm
  | cons a rest ih =>
    rw [mapM_cons_eq_ok_iff, List.forall₂_cons_left_iff]
    simp only [ih]

theorem mapM_reverse_eq_ok_iff {g : α → Outcome β} {items : List α} {result : List β} :
    items.reverse.mapM g = .ok result ↔ items.mapM g = .ok result.reverse := by
  rw [mapM_eq_ok_iff_forall₂, mapM_eq_ok_iff_forall₂, ← List.forall₂_reverse_iff,
    List.reverse_reverse]

/-- A traversal of the parts of all items is a traversal of the items, part by part. -/
theorem mapM_flatMap_eq_ok_iff {g : β → Outcome γ} {parts : α → List β} {items : List α}
    {result : List γ} :
    (items.flatMap parts).mapM g = .ok result ↔
      ∃ groups, (items.mapM fun a => (parts a).mapM g) = .ok groups ∧ result = groups.flatten := by
  induction items generalizing result with
  | nil => simp [eq_comm]
  | cons a rest ih =>
    simp only [List.flatMap_cons, List.mapM_append, bind_eq_ok_iff, ih, mapM_cons_eq_ok_iff,
      pure_eq_ok, Except.ok.injEq]
    constructor
    · rintro ⟨own, hown, -, ⟨groups, hgroups, rfl⟩, rfl⟩
      exact ⟨own :: groups, ⟨own, groups, hown, hgroups, rfl⟩, rfl⟩
    · rintro ⟨-, ⟨own, groups, hown, hgroups, rfl⟩, rfl⟩
      exact ⟨own, hown, _, ⟨groups, hgroups, rfl⟩, rfl⟩

end Outcome

namespace Criteria

open Sql

/-- An operator on a column, with its operand. -/
structure Demand where
  column : ColumnName
  operator : Operator
  operand : Value

def Demand.predicate (d : Demand) : Outcome Predicate :=
  Criteria.predicate d.column d.operator d.operand

/-- The demands of one field, in the order of its keys: one for each recognised operator. -/
def fieldDemands : Value × Value → List Demand
  | (name, .object conditions) => conditions.filterMap fun (key, operand) =>
    (Operator.ofText? key).map fun operator => ⟨ColumnName.ofValue name, operator, operand⟩
  | _ => []

namespace Level

/-- The demands of a level, in the order of its fields. -/
def demands (level : Level) : List Demand := level.fields.flatMap fieldDemands

/-- The order entries of a level. -/
def entries (level : Level) : Outcome (List Value) :=
  match level.order with
  | none => .ok []
  | some v =>
    if v.truthy then
      match v.members? with
      | some members => .ok members
      | none => .error (.wrongType "")
    else .ok []

end Level

/-- The value given by the deepest level that gives one. -/
def lastGiven (pick : Level → Option Value) (levels : List Level) : Option Value :=
  levels.reverse.findSome? pick

theorem conditions_eq_mapM (name : Value) (fields : Fields Value) :
    conditions (ColumnName.ofValue name) fields =
      (fieldDemands (name, .object fields)).mapM Demand.predicate := by
  induction fields with
  | nil => rfl
  | cons field rest ih =>
    obtain ⟨key, operand⟩ := field
    rw [conditions]
    cases hoperator : Operator.ofText? key with
    | none =>
      have hskip : fieldDemands (name, .object ((key, operand) :: rest)) =
          fieldDemands (name, .object rest) := by simp [fieldDemands, hoperator]
      rw [hskip, ih]
    | some operator =>
      have htake : fieldDemands (name, .object ((key, operand) :: rest)) =
          ⟨ColumnName.ofValue name, operator, operand⟩ :: fieldDemands (name, .object rest) := by
        simp [fieldDemands, hoperator]
      rw [htake, List.mapM_cons, ← ih]
      rfl

/-- The predicates of a level are those of its demands. -/
theorem predicates_eq_mapM (level : Level) :
    level.predicates = level.demands.mapM Demand.predicate := by
  unfold Level.predicates Level.demands
  induction level.fields with
  | nil => rfl
  | cons field rest ih =>
    have hfield : fieldPredicates field = (fieldDemands field).mapM Demand.predicate := by
      obtain ⟨name, v⟩ := field
      cases v with
      | object fields => exact conditions_eq_mapM name fields
      | _ => rfl
    rw [List.flatMap_cons, List.mapM_append, fieldsPredicates, hfield, ih]

/-- The orders of a level are those of its entries. -/
theorem orders_eq_bind (level : Level) :
    level.orders = level.entries >>= fun entries => entries.mapM orderEntry := by
  unfold Level.orders Level.entries
  cases level.order with
  | none => rfl
  | some v =>
    simp only [orderEntries]
    by_cases hne : v.truthy = true
    · rw [if_pos hne, if_pos hne]
      cases v.members? <;> rfl
    · rw [if_neg hne, if_neg hne]
      rfl

theorem mapM_orders_eq_ok_iff {levels : List Level} {orders : List (List Order)} :
    levels.mapM Level.orders = .ok orders ↔
      ∃ entries, levels.mapM Level.entries = .ok entries ∧
        (entries.mapM fun own => own.mapM orderEntry) = .ok orders := by
  induction levels generalizing orders with
  | nil =>
    simp only [List.mapM_nil, Outcome.pure_eq_ok, Except.ok.injEq]
    constructor
    · rintro rfl
      exact ⟨[], rfl, rfl⟩
    · rintro ⟨-, rfl, h⟩
      cases h
      rfl
  | cons level rest ih =>
    simp only [Outcome.mapM_cons_eq_ok_iff, orders_eq_bind, Outcome.bind_eq_ok_iff, ih]
    constructor
    · rintro ⟨own, more, ⟨entries, hentries, hown⟩, ⟨others, hothers, hmore⟩, rfl⟩
      exact ⟨entries :: others, ⟨entries, others, hentries, hothers, rfl⟩,
        Outcome.mapM_cons_eq_ok_iff.mpr ⟨own, more, hown, hmore, rfl⟩⟩
    · rintro ⟨-, ⟨entries, others, hentries, hothers, rfl⟩, h⟩
      obtain ⟨own, more, hown, hmore, rfl⟩ := Outcome.mapM_cons_eq_ok_iff.mp h
      exact ⟨own, more, ⟨entries, hentries, hown⟩, ⟨others, hothers, hmore⟩, rfl⟩

theorem deepest_eq_lastGiven (pick : Level → Option Value) (start : Value) (levels : List Level) :
    deepest start (levels.map pick) = (lastGiven pick levels).getD start := by
  induction levels generalizing start with
  | nil => rfl
  | cons level rest ih =>
    have hrest : deepest start ((level :: rest).map pick) =
        deepest ((pick level).getD start) (rest.map pick) := rfl
    rw [hrest, ih, lastGiven, lastGiven, List.reverse_cons, List.findSome?_append]
    cases rest.reverse.findSome? pick with
    | none => cases hlevel : pick level <;> simp [hlevel]
    | some v => rfl

/-- Criteria extended by the values given by levels, and by predicates and orders. -/
def append (c : Criteria) (levels : List Level) (predicates : List Predicate)
    (order : List Order) : Criteria :=
  ⟨c.predicates ++ predicates, c.order ++ order,
    (lastGiven (·.limit) levels).getD c.limit, (lastGiven (·.offset) levels).getD c.offset⟩

/-- A query compiles when the demands and the order entries of its levels do. -/
theorem compile_eq_ok_iff_append (c : Criteria) (query : Value) (result : Criteria) :
    c.compile query = .ok result ↔
      ∃ ls entries predicates order, levels query = .ok ls ∧
        (ls.reverse.flatMap Level.demands).mapM Demand.predicate = .ok predicates ∧
        ls.mapM Level.entries = .ok entries ∧ entries.flatten.mapM orderEntry = .ok order ∧
        result = c.append ls predicates order := by
  have hpredicates : Level.predicates = fun level => level.demands.mapM Demand.predicate :=
    funext predicates_eq_mapM
  simp only [compile_eq_ok_iff, hpredicates, mapM_orders_eq_ok_iff, extend, deepest_eq_lastGiven]
  constructor
  · rintro ⟨ls, groups, orders, hls, hgroups, ⟨entries, hentries, horders⟩, rfl⟩
    refine ⟨ls, entries, groups.reverse.flatten, orders.flatten, hls, ?_, hentries, ?_, rfl⟩
    · refine Outcome.mapM_flatMap_eq_ok_iff.mpr ⟨groups.reverse, ?_, rfl⟩
      rwa [Outcome.mapM_reverse_eq_ok_iff, List.reverse_reverse]
    · rw [← List.flatMap_id]
      exact Outcome.mapM_flatMap_eq_ok_iff.mpr ⟨orders, horders, rfl⟩
  · rintro ⟨ls, entries, predicates, order, hls, hdemands, hentries, horder, rfl⟩
    obtain ⟨groups, hgroups, rfl⟩ := Outcome.mapM_flatMap_eq_ok_iff.mp hdemands
    rw [← List.flatMap_id] at horder
    obtain ⟨orders, horders, rfl⟩ := Outcome.mapM_flatMap_eq_ok_iff.mp horder
    rw [Outcome.mapM_reverse_eq_ok_iff] at hgroups
    exact ⟨ls, groups.reverse, orders, hls, hgroups, ⟨entries, hentries, horders⟩,
      by rw [List.reverse_reverse]; rfl⟩

/-- Criteria are extended by a query as empty ones are, and keep their limit and offset where the
query gives none. -/
theorem compile_eq_ok_iff_empty (c : Criteria) (query : Value) (result : Criteria) :
    c.compile query = .ok result ↔
      ∃ ls part, levels query = .ok ls ∧ empty.compile query = .ok part ∧
        result = c.append ls part.predicates part.order := by
  simp only [compile_eq_ok_iff_append]
  constructor
  · rintro ⟨ls, entries, predicates, order, hls, hdemands, hentries, horder, rfl⟩
    exact ⟨ls, _, hls, ⟨ls, entries, predicates, order, hls, hdemands, hentries, horder, rfl⟩, rfl⟩
  · rintro ⟨ls, -, hls, ⟨ls', entries, predicates, order, hls', hdemands, hentries, horder, rfl⟩,
      rfl⟩
    cases hls.symm.trans hls'
    exact ⟨ls, entries, predicates, order, hls, hdemands, hentries, horder, rfl⟩

theorem lastGiven_append (pick : Level → Option Value) (levels more : List Level) (start : Value) :
    (lastGiven pick (levels ++ more)).getD start =
      (lastGiven pick more).getD ((lastGiven pick levels).getD start) := by
  unfold lastGiven
  rw [List.reverse_append, List.findSome?_append]
  cases more.reverse.findSome? pick <;> rfl

theorem append_append (c : Criteria) (ls more : List Level) (predicates ps : List Predicate)
    (order os : List Order) :
    (c.append ls predicates order).append more ps os =
      c.append (ls ++ more) (predicates ++ ps) (order ++ os) := by
  simp only [append, lastGiven_append, List.append_assoc]

/-- The criteria of queries compiled one after another are the concatenation of their own criteria.
-/
theorem compileAll_eq_ok_iff (c : Criteria) (queries : List Value) (result : Criteria) :
    c.compileAll queries = .ok result ↔
      ∃ lss parts, queries.mapM levels = .ok lss ∧ queries.mapM empty.compile = .ok parts ∧
        result = c.append lss.flatten (parts.flatMap (·.predicates)) (parts.flatMap (·.order)) := by
  induction queries generalizing c with
  | nil =>
    simp only [compileAll, List.mapM_nil, Outcome.pure_eq_ok, Except.ok.injEq]
    constructor
    · rintro rfl
      exact ⟨[], [], rfl, rfl, by simp [append, lastGiven]⟩
    · rintro ⟨-, -, rfl, rfl, rfl⟩
      simp [append, lastGiven]
  | cons query rest ih =>
    simp only [compileAll, Outcome.bind_eq_ok_iff, ih, compile_eq_ok_iff_empty c query,
      Outcome.mapM_cons_eq_ok_iff]
    constructor
    · rintro ⟨-, ⟨ls, part, hls, hpart, rfl⟩, lss, parts, hlss, hparts, rfl⟩
      exact ⟨_, _, ⟨ls, lss, hls, hlss, rfl⟩, ⟨part, parts, hpart, hparts, rfl⟩,
        append_append ..⟩
    · rintro ⟨-, -, ⟨ls, lss, hls, hlss, rfl⟩, ⟨part, parts, hpart, hparts, rfl⟩, rfl⟩
      exact ⟨_, ⟨ls, part, hls, hpart, rfl⟩, lss, parts, hlss, hparts, (append_append ..).symm⟩

/-- Compiling a query appends to the given criteria: the predicates of its levels from the deepest
outwards, one for each demand, and the orders of its levels from the outermost inwards; limit and
offset are those given by its deepest level with such a key. So queries compiled one after another
append their own criteria, and the last limit and offset given apply. -/
theorem compile_appends (c : Criteria) :
    (∀ query result, c.compile query = .ok result ↔
      ∃ ls entries predicates order, levels query = .ok ls ∧
        (ls.reverse.flatMap Level.demands).mapM Demand.predicate = .ok predicates ∧
        ls.mapM Level.entries = .ok entries ∧ entries.flatten.mapM orderEntry = .ok order ∧
        result = ⟨c.predicates ++ predicates, c.order ++ order,
          (lastGiven (·.limit) ls).getD c.limit, (lastGiven (·.offset) ls).getD c.offset⟩) ∧
      ∀ queries result, c.compileAll queries = .ok result ↔
        ∃ lss parts, queries.mapM levels = .ok lss ∧ queries.mapM empty.compile = .ok parts ∧
          result = ⟨c.predicates ++ parts.flatMap (·.predicates),
            c.order ++ parts.flatMap (·.order),
            (lastGiven (·.limit) lss.flatten).getD c.limit,
            (lastGiven (·.offset) lss.flatten).getD c.offset⟩ :=
  ⟨compile_eq_ok_iff_append c, compileAll_eq_ok_iff c⟩

/-- A null in the inner level replaces the limit of the outer one. -/
example : (empty.compile (.object [("limit", .int 5), ("where", .object [("limit", .null)])])).map
    (·.limit) = .ok .null := rfl

end Criteria

end SqlBridge
