import SqlBridge.Proofs.Adapter.Statements
import SqlBridge.Proofs.Task.History
import SqlBridge.Registry

/-!
Calls with their purposes. A call is lawful when its purpose is permitted by the registry at that
moment. Lawful calls are orderly when the registry grows from one to the next and contains every
table that was settled before.
-/

namespace SqlBridge.Adapter

open Sql Remote

/-- The purpose of a call of a session. -/
inductive Purpose where
  | catalog
  | provision (table : String)
  | data (table : String)
deriving DecidableEq

structure Event where
  purpose : Purpose
  exchange : Exchange

/-- The event of a call on a table: its provisioning, or a data statement. -/
def Event.ofTable (table : String) (e : Exchange) : Event :=
  ⟨if isProvisioning e.call.sql then .provision table else .data table, e⟩

def knows (registry : Registry) (table : String) : Bool := registry.known.contains (.text table)

/-- Whether the purpose of a call is permitted and its text is right for it. -/
def Event.Lawful (e : Event) : Prop :=
  match e.purpose with
  | .catalog => e.exchange.call = ⟨catalogSql, []⟩
  | .provision table =>
    knows e.exchange.registry table = false ∧ e.exchange.registry.autocreate = true ∧
      ∃ m sql, Schema.Mapper.tableName m = table ∧ m.createTable = .ok sql ∧
        e.exchange.call = ⟨sql, []⟩
  | .data table =>
    knows e.exchange.registry table = true ∧
      ∃ s f, Statement.table s = table ∧ s.render = .ok f ∧
        e.exchange.call = ⟨f.text, f.params⟩

/-- Whether a call makes a table known: it was provisioned, or listed by the catalog. -/
def Event.Settles (e : Event) (table : String) : Prop :=
  match e.purpose with
  | .catalog => ∃ r, e.exchange.answer = .ok r ∧
      .text table ∈ (Registry.learnable r.tableNames).1
  | .provision other => other = table ∧ ∃ r, e.exchange.answer = .ok r
  | .data _ => False

/-- Known tables stay known. -/
def Grows (registry registry' : Registry) : Prop :=
  ∀ table, knows registry table = true → knows registry' table = true

theorem Grows.refl (registry : Registry) : Grows registry registry := fun _ h => h

theorem Grows.trans {r r' r'' : Registry} (h : Grows r r') (h' : Grows r' r'') : Grows r r'' :=
  fun table hknown => h' table (h table hknown)

/-- A sequence of lawful calls from one registry to another. The registry of each call has grown
since the one before and contains the tables settled by it. -/
inductive Orderly : Registry → List Event → Registry → Prop
  | nil {r r' : Registry} (h : Grows r r') : Orderly r [] r'
  | cons {r r' r'' : Registry} {e : Event} {es : List Event} (hlawful : e.Lawful)
    (hbefore : Grows r e.exchange.registry) (hafter : Grows e.exchange.registry r')
    (hsettled : ∀ table, e.Settles table → knows r' table = true) (h : Orderly r' es r'') :
    Orderly r (e :: es) r''

namespace Orderly

variable {r r' r'' : Registry} {es es' : List Event}

theorem append (h : Orderly r es r') (h' : Orderly r' es' r'') : Orderly r (es ++ es') r'' := by
  induction h with
  | @nil r r' hgrows =>
    cases h' with
    | nil hgrows' => exact .nil (hgrows.trans hgrows')
    | cons hlawful hbefore hafter hsettled hrest =>
      exact .cons hlawful (hgrows.trans hbefore) hafter hsettled hrest
  | cons hlawful hbefore hafter hsettled _ ih => exact .cons hlawful hbefore hafter hsettled (ih h')

theorem lawful (h : Orderly r es r') : ∀ e ∈ es, e.Lawful := by
  induction h with
  | nil _ => simp
  | cons hlawful _ _ _ _ ih =>
    intro e he
    rcases List.mem_cons.mp he with rfl | he
    · exact hlawful
    · exact ih e he

/-- A known table is not provisioned. -/
theorem not_provision_of_known (h : Orderly r es r') {table : String}
    (hknown : knows r table = true) : ∀ e ∈ es, e.purpose ≠ .provision table := by
  induction h with
  | nil _ => simp
  | @cons r r' r'' e es hlawful hbefore hafter _ _ ih =>
    have hthen := hbefore table hknown
    intro e' he'
    rcases List.mem_cons.mp he' with rfl | he'
    · intro hpurpose
      unfold Event.Lawful at hlawful
      simp only [hpurpose, hthen] at hlawful
      exact absurd hlawful.1 (by decide)
    · exact ih (hafter table hthen) e' he'

/-- A settled table is not provisioned again. -/
theorem not_provision_of_settled (h : Orderly r es r') {past future : List Event} {e : Event}
    (hes : es = past ++ e :: future) {table : String} (hsettles : e.Settles table) :
    ∀ e' ∈ future, e'.purpose ≠ .provision table := by
  induction h generalizing past with
  | nil _ => simp at hes
  | cons _ _ _ hsettled hrest ih =>
    cases past with
    | nil =>
      obtain ⟨rfl, rfl⟩ := List.cons_eq_cons.mp hes
      exact hrest.not_provision_of_known (hsettled table hsettles)
    | cons first past => exact ih (List.cons_eq_cons.mp hes).2

/-- Lawful calls at one registry that settle no table are orderly. -/
theorem of_forall (hlawful : ∀ e ∈ es, e.Lawful) (hregistry : ∀ e ∈ es, e.exchange.registry = r)
    (hsettles : ∀ e ∈ es, ∀ table, ¬e.Settles table) : Orderly r es r := by
  induction es with
  | nil => exact .nil (.refl r)
  | cons e es ih =>
    have hsame := hregistry e List.mem_cons_self
    refine .cons (hlawful e List.mem_cons_self) ?_ ?_ ?_ (ih ?_ ?_ ?_)
    · rw [hsame]
      exact .refl r
    · rw [hsame]
      exact .refl r
    · intro table h
      exact absurd h (hsettles e List.mem_cons_self table)
    · exact fun e' he' => hlawful e' (List.mem_cons_of_mem e he')
    · exact fun e' he' => hregistry e' (List.mem_cons_of_mem e he')
    · exact fun e' he' => hsettles e' (List.mem_cons_of_mem e he')

end Orderly

end SqlBridge.Adapter
