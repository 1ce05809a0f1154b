import SqlBridge.Proofs.Adapter.Stored
import SqlBridge.Proofs.Query.Change
import SqlBridge.Proofs.Query.Fold

/-!
Removals and changes of a whole table. They have no condition exactly when no level of their query
has a recognised operator or an order entry, and no limit and no offset applies. So a limit or an
offset of zero, and a membership in an empty list, always leave a condition.
-/

namespace SqlBridge

open Sql

/-- A value that is not falsy and has members has at least one. -/
theorem Value.ne_nil_of_truthy {v : Value} {members : List Value} (hne : v.truthy = true)
    (h : v.members? = some members) : members ≠ [] := by
  cases v with
  | text s =>
    cases h
    simpa [truthy] using hne
  | list items =>
    cases h
    simpa [truthy] using hne
  | object fields =>
    cases h
    simpa [truthy] using hne
  | _ => simp [members?] at h

theorem Outcome.mapM_eq_ok_nil_iff {α β : Type} {g : α → Outcome β} {items : List α}
    {result : List β} (h : items.mapM g = .ok result) : result = [] ↔ items = [] := by
  have hlength := (mapM_eq_ok_iff_forall₂.mp h).length_eq
  rw [← List.length_eq_zero_iff, ← List.length_eq_zero_iff, hlength]

namespace Sql

/-- A change of a whole table is only its lead; any other has a condition after it. -/
def Covers (whole : Prop) (lead text : String) : Prop :=
  (text = lead ↔ whole) ∧ (¬whole → ∃ condition, text = lead ++ " WHERE " ++ condition)

/-- Whether a scope excludes rows. -/
def Scope.Restricts : Scope → Prop
  | .all => False
  | .satisfying predicates => predicates ≠ []
  | .chosen _ => True

/-- A restricting scope is rendered as a condition, any other as the empty text. -/
theorem Scope.text_of_render {scope : Scope} {binds : Binds} {f : Fragment Slot}
    (h : scope.render binds = .ok f) :
    (scope.Restricts → ∃ condition, f.text = " WHERE " ++ condition) ∧
      (¬scope.Restricts → f.text = "") := by
  cases scope with
  | all =>
    cases h
    exact ⟨fun hrestricts => hrestricts.elim, fun _ => rfl⟩
  | satisfying predicates =>
    obtain ⟨⟨fragments, after⟩, hwritten, hf⟩ := Outcome.bind_eq_ok_iff.mp h
    cases hf
    have hlength := Criteria.length_renderPredicates hwritten
    cases fragments with
    | nil =>
      have hnone : predicates = [] := List.length_eq_zero_iff.mp hlength.symm
      exact ⟨fun hrestricts => absurd hnone hrestricts, fun _ => rfl⟩
    | cons first rest =>
      refine ⟨fun _ => ⟨_, rfl⟩, fun hall => absurd ?_ hall⟩
      rintro rfl
      simp at hlength
  | chosen rows =>
    obtain ⟨⟨fragment, after⟩, -, hf⟩ := Outcome.bind_eq_ok_iff.mp h
    cases hf
    refine ⟨fun _ => ⟨"rowid IN (" ++ fragment.text ++ ")", ?_⟩, fun hall => absurd trivial hall⟩
    simp [← String.append_assoc]

theorem Scope.covers_of_render {scope : Scope} {binds : Binds} {f : Fragment Slot}
    (h : scope.render binds = .ok f) (lead : String) :
    Covers (¬scope.Restricts) lead (lead ++ f.text) := by
  obtain ⟨hpart, hall⟩ := text_of_render h
  by_cases hrestricts : scope.Restricts
  · obtain ⟨condition, hcondition⟩ := hpart hrestricts
    refine ⟨?_, fun _ => ⟨condition, by rw [hcondition, String.append_assoc]⟩⟩
    simp [hcondition, hrestricts]
  · exact ⟨by simp [hall hrestricts, hrestricts], fun hnot => absurd hrestricts hnot⟩

end Sql

namespace Criteria

/-- A level without a recognised operator and without order entries. -/
structure Level.Idle (level : Level) : Prop where
  operators : ∀ field ∈ level.fields, ∀ conditions, field.2 = .object conditions →
    ∀ condition ∈ conditions, Operator.ofText? condition.1 = none
  order : ∀ v, level.order = some v → v.truthy = false

/-- All levels are idle, and the deepest limit and the deepest offset are null if there are any. -/
structure Unrestricted (ls : List Level) : Prop where
  idle : ∀ level ∈ ls, level.Idle
  limit : (lastGiven (·.limit) ls).getD .null = .null
  offset : (lastGiven (·.offset) ls).getD .null = .null

theorem Level.demands_eq_nil_iff (level : Level) :
    level.demands = [] ↔ ∀ field ∈ level.fields, ∀ conditions, field.2 = .object conditions →
      ∀ condition ∈ conditions, Operator.ofText? condition.1 = none := by
  unfold Level.demands
  rw [List.flatMap_eq_nil_iff]
  refine forall₂_congr fun field _ => ?_
  obtain ⟨name, v⟩ := field
  cases v with
  | object conditions => simp [fieldDemands, List.filterMap_eq_nil_iff]
  | _ => simp [fieldDemands]

theorem Level.entries_eq_nil_iff {level : Level} {entries : List Value}
    (h : level.entries = .ok entries) :
    entries = [] ↔ ∀ v, level.order = some v → v.truthy = false := by
  unfold Level.entries at h
  cases horder : level.order with
  | none =>
    rw [horder] at h
    cases h
    simp
  | some v =>
    rw [horder] at h
    cases hne : v.truthy with
    | false =>
      simp only [hne, Bool.false_eq_true, if_false, Except.ok.injEq] at h
      simp [← h, hne]
    | true =>
      cases hmembers : v.members? with
      | none => simp [hne, hmembers] at h
      | some members =>
        simp only [hne, hmembers, if_true, Except.ok.injEq] at h
        rw [← h]
        simp [Value.ne_nil_of_truthy hne hmembers, hne]

theorem flatten_entries_eq_nil_iff {ls : List Level} {entries : List (List Value)}
    (h : ls.mapM Level.entries = .ok entries) :
    entries.flatten = [] ↔ ∀ level ∈ ls, ∀ v, level.order = some v → v.truthy = false := by
  induction ls generalizing entries with
  | nil =>
    cases h
    simp
  | cons level rest ih =>
    obtain ⟨own, others, hown, hothers, rfl⟩ := Outcome.mapM_cons_eq_ok_iff.mp h
    rw [List.flatten_cons, List.append_eq_nil_iff, Level.entries_eq_nil_iff hown, ih hothers,
      List.forall_mem_cons]

/-- A query is unrestricted when its criteria have no predicate, no order and no page. -/
theorem unrestricted_iff {query : Value} {c : Criteria} {ls : List Level}
    (hcompile : empty.compile query = .ok c) (hlevels : levels query = .ok ls) :
    Unrestricted ls ↔ c.predicates = [] ∧ c.paginated = false := by
  obtain ⟨ls', entries, predicates, order, hlevels', hpredicates, hentries, horder, rfl⟩ :=
    (compile_eq_ok_iff_append empty query c).mp hcompile
  cases hlevels.symm.trans hlevels'
  have hdemands : (ls.reverse.flatMap Level.demands = []) ↔ ∀ level ∈ ls, level.demands = [] := by
    simp [List.flatMap_eq_nil_iff]
  have hnone := (Outcome.mapM_eq_ok_nil_iff hpredicates).trans hdemands
  have hplain := (Outcome.mapM_eq_ok_nil_iff horder).trans (flatten_entries_eq_nil_iff hentries)
  rw [paginated_eq_false_iff]
  simp only [append, empty, List.nil_append, hnone, hplain, Level.demands_eq_nil_iff]
  constructor
  · rintro ⟨hidle, hlimit, hoffset⟩
    exact ⟨fun level hlevel => (hidle level hlevel).operators, hlimit, hoffset,
      fun level hlevel => (hidle level hlevel).order⟩
  · rintro ⟨hoperators, hlimit, hoffset, horders⟩
    exact ⟨fun level hlevel => ⟨hoperators level hlevel, horders level hlevel⟩, hlimit, hoffset⟩

/-- Criteria restrict a change unless they have no predicate, no order and no page. -/
theorem restricts_scope_iff {c : Criteria} {table : String} {scope : Scope}
    (h : c.scope table = .ok scope) :
    ¬scope.Restricts ↔ c.predicates = [] ∧ c.paginated = false := by
  unfold Criteria.scope at h
  split at h
  · next hpaged =>
    obtain ⟨rows, -, rfl⟩ := Outcome.map_eq_ok_iff.mp h
    simp [Scope.Restricts, hpaged]
  · next hplain =>
    split at h
    · next hnone =>
      cases h
      simpa [Scope.Restricts] using And.intro (List.isEmpty_iff.mp hnone) hplain
    · next hsome =>
      cases h
      have hne : c.predicates ≠ [] := by simpa using hsome
      simp [Scope.Restricts, hne]

/-- The text of a removal before its condition. -/
def removalLead (table : String) : String := "DELETE FROM " ++ identifier table

def changeLead (table : String) (columns : List String) : String :=
  "UPDATE " ++ identifier table ++ " SET "
    ++ ", ".intercalate (columns.map fun name => identifier name ++ "=?")

theorem text_render_delete {table : String} {scope : Scope} {f : Fragment Value}
    (h : (Statement.delete table scope).render = .ok f) :
    ∃ condition, scope.render ⟨[], []⟩ = .ok condition ∧
      f.text = removalLead table ++ condition.text := by
  obtain ⟨draft, hdraft, rfl⟩ := Statement.exists_draft_of_render h
  obtain ⟨condition, hcondition, hf⟩ := Outcome.bind_eq_ok_iff.mp hdraft
  cases hf
  exact ⟨condition, hcondition, rfl⟩

theorem text_render_update {table : String} {assignments : Fields Value} {scope : Scope}
    {f : Fragment Value} (h : (Statement.update table assignments scope).render = .ok f) :
    ∃ condition, scope.render ⟨assignments.keys, []⟩ = .ok condition ∧
      f.text = changeLead table assignments.keys ++ condition.text := by
  obtain ⟨draft, hdraft, rfl⟩ := Statement.exists_draft_of_render h
  obtain ⟨-, -, hrest⟩ := Outcome.bind_eq_ok_iff.mp hdraft
  obtain ⟨condition, hcondition, hf⟩ := Outcome.bind_eq_ok_iff.mp hrest
  cases hf
  refine ⟨condition, hcondition, ?_⟩
  have hcolumns : (assignments.map assignment).map (·.text) =
      assignments.keys.map fun name => identifier name ++ "=?" := by
    simp only [Fields.keys, List.map_map]
    refine List.map_congr_left fun field _ => ?_
    simp [assignment, placeholder, String.append_assoc]
  simp only [Fragment.text_values, Fragment.text_append, Fragment.text_ofText, Fragment.text_join,
    hcolumns, changeLead]

variable {query : Value} {c : Criteria} {ls : List Level}

/-- The condition made from a query is empty exactly when the query is unrestricted. -/
theorem covers_of_scope (hcompile : empty.compile query = .ok c) (hlevels : levels query = .ok ls)
    {table : String} {scope : Scope} (hscope : c.scope table = .ok scope) {binds : Binds}
    {condition : Fragment Slot} (hcondition : scope.render binds = .ok condition) (lead : String) :
    Covers (Unrestricted ls) lead (lead ++ condition.text) := by
  have hcovers := Scope.covers_of_render hcondition lead
  rwa [restricts_scope_iff hscope, ← unrestricted_iff hcompile hlevels] at hcovers

/-- A removal under a query covers the whole table exactly when the query is unrestricted. -/
theorem covers_removal (hcompile : empty.compile query = .ok c) (hlevels : levels query = .ok ls)
    {table : String} {f : Fragment Value} (h : removal table query = .ok f) :
    Covers (Unrestricted ls) (removalLead table) f.text := by
  unfold removal at h
  rw [hcompile, Outcome.ok_bind] at h
  obtain ⟨s, hs, hrender⟩ := Outcome.bind_eq_ok_iff.mp h
  obtain ⟨scope, hscope, rfl⟩ := Outcome.map_eq_ok_iff.mp hs
  obtain ⟨condition, hcondition, htext⟩ := text_render_delete hrender
  rw [htext]
  exact covers_of_scope hcompile hlevels hscope hcondition _

/-- A change under a query covers the whole table exactly when the query is unrestricted. -/
theorem covers_change (hcompile : empty.compile query = .ok c) (hlevels : levels query = .ok ls)
    {m : Schema.Mapper} {fields : Fields Value} {f : Fragment Value}
    (h : (Adapter.updateAllStatement m (.object fields) query >>= Statement.render) = .ok f) :
    Covers (Unrestricted ls) (changeLead m.tableName fields.keys) f.text := by
  rw [Adapter.updateAllStatement_eq, hcompile, Outcome.ok_bind] at h
  obtain ⟨s, hs, hrender⟩ := Outcome.bind_eq_ok_iff.mp h
  obtain ⟨scope, hscope, rfl⟩ := Outcome.map_eq_ok_iff.mp hs
  obtain ⟨condition, hcondition, htext⟩ := text_render_update hrender
  rw [htext, Adapter.keys_boundFields]
  exact covers_of_scope hcompile hlevels hscope hcondition _

/-- The removal under an unrestricted query can be rendered. -/
theorem removal_of_unrestricted (hcompile : empty.compile query = .ok c)
    (hlevels : levels query = .ok ls) (h : Unrestricted ls) (table : String) :
    removal table query = .ok (Fragment.ofText (removalLead table)) := by
  obtain ⟨hnone, hplain⟩ := (unrestricted_iff hcompile hlevels).mp h
  rw [removal_of_compile hcompile, condition_of_not_paginated hplain, conjuncts, hnone]
  exact congrArg Except.ok (Fragment.append_ofText_empty _)

/-- Some level has a membership in an empty list. -/
def AsksEmptyMembership (ls : List Level) : Prop :=
  ∃ level ∈ ls, ∃ name conditions key positive, (name, .object conditions) ∈ level.fields ∧
    Operator.ofText? key = some (.membership positive) ∧ (key, .list []) ∈ conditions

theorem not_unrestricted_of_asksEmptyMembership (h : AsksEmptyMembership ls) :
    ¬Unrestricted ls := by
  obtain ⟨level, hlevel, name, conditions, key, positive, hfield, hoperator, hcondition⟩ := h
  intro hall
  have hignored := (hall.idle level hlevel).operators _ hfield conditions rfl _ hcondition
  rw [hoperator] at hignored
  cases hignored

/-- A removal or a change under a query covers the whole table exactly when no level of the query
has a recognised operator or an order entry, and no limit and no offset applies; such a removal can
be rendered. A limit of zero, an offset of zero and a membership in an empty list are restrictions.
For any registry and any remote side, the operations send no data statement other than the rendered
one. -/
theorem covers_whole_table_iff_unrestricted (hcompile : empty.compile query = .ok c)
    (m : Schema.Mapper) :
    ∃ ls, levels query = .ok ls ∧
      (∀ f, removal m.tableName query = .ok f →
        Covers (Unrestricted ls) (removalLead m.tableName) f.text) ∧
      (∀ (fields : Fields Value) f, fields ≠ [] →
        (Adapter.updateAllStatement m (.object fields) query >>= Statement.render) = .ok f →
          Covers (Unrestricted ls) (changeLead m.tableName fields.keys) f.text) ∧
      (Unrestricted ls → ∃ f, removal m.tableName query = .ok f) ∧
      (lastGiven (·.limit) ls = some (.int 0) ∨ lastGiven (·.offset) ls = some (.int 0) ∨
        AsksEmptyMembership ls → ¬Unrestricted ls) ∧
      ∀ {σ : Type} (answer : Executor σ) (w : World σ) (dbg : Bool)
        (source : Adapter.MapperSource), source.resolve = .ok m →
        Adapter.Sends answer (.destroyAll query) dbg source w
            (Adapter.sent (removal m.tableName query)) ∧
          ∀ fields : Fields Value, fields ≠ [] →
            Adapter.Sends answer (.updateAll (.object fields) query) dbg source w
              (Adapter.sent
                (Adapter.updateAllStatement m (.object fields) query >>= Statement.render)) := by
  obtain ⟨ls, -, -, -, hlevels, -⟩ := (compile_eq_ok_iff_append empty query c).mp hcompile
  refine ⟨ls, hlevels, ?_, ?_, ?_, ?_, ?_⟩
  · intro f hwritten
    exact covers_removal hcompile hlevels hwritten
  · intro fields f _ hwritten
    exact covers_change hcompile hlevels hwritten
  · intro hall
    exact ⟨_, removal_of_unrestricted hcompile hlevels hall m.tableName⟩
  · rintro (hlimit | hoffset | hmembers) hall
    · have hnull := hall.limit
      rw [hlimit] at hnull
      cases hnull
    · have hnull := hall.offset
      rw [hoffset] at hnull
      cases hnull
    · exact not_unrestricted_of_asksEmptyMembership hmembers hall
  · intro σ answer w dbg source hm
    constructor
    · have hsends := Adapter.sends_statement answer dbg hm (o := .destroyAll query) w rfl
      rw [hcompile] at hsends
      rwa [removal, hcompile]
    · intro fields hne
      have htruthy : (Value.object fields).truthy = true := by simpa [Value.truthy] using hne
      refine Adapter.sends_statement answer dbg hm w ?_
      rw [Adapter.Operation.statements, if_pos htruthy]

/-- A query whose inner level replaces the limit of the outer one by null. -/
def retractedQuery : Value :=
  .object [("limit", .int 5), ("orderBy", .list []),
    ("where", .object [("limit", .null), ("a", .object [("like", .int 1)]), ("b", .int 3)])]

/-- The removal under such a query is one of all rows, although the outer level has a limit. -/
theorem covers_whole_table_iff_unrestricted_retracted :
    empty.compile retractedQuery = .ok empty ∧
      ∃ ls, levels retractedQuery = .ok ls ∧ Unrestricted ls ∧
        ∃ f, removal "user" retractedQuery = .ok f ∧ f.text = "DELETE FROM user" := by
  have hcompile : empty.compile retractedQuery = .ok empty := rfl
  obtain ⟨ls, hlevels, hremoval, -, hwritten, -, -⟩ :=
    covers_whole_table_iff_unrestricted hcompile (Schema.Mapper.ofName "User")
  have hall : Unrestricted ls := (unrestricted_iff hcompile hlevels).mpr ⟨rfl, rfl⟩
  obtain ⟨f, hf⟩ := hwritten hall
  exact ⟨hcompile, ls, hlevels, hall, f, hf, (hremoval f hf).1.mpr hall⟩

/-- A limit of zero is a restriction. -/
example : removal "user" (.object [("limit", .int 0)]) =
    .ok ⟨"DELETE FROM user WHERE rowid IN (SELECT rowid \nFROM user\n LIMIT ? OFFSET ?)",
      [.int 0, .int 0]⟩ := rfl

end Criteria

end SqlBridge
