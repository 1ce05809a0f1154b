import SqlBridge.Proofs.Outcome
import SqlBridge.Sql.Render

/-!
Failures of rendering. Every failure is a fault in the arguments: a value that is not a name, an
operand that cannot be compared, a parameter name that clashes. A missing table is not among them.
-/

namespace SqlBridge

/-- A fault in the arguments of an operation. -/
def Failure.blamesArguments : Failure → Bool
  | .onlyEquality => true
  | .unnamedColumn => true
  | .unnamedTableColumn => true
  | .noColumnName _ => true
  | .bindClash _ => true
  | .missingBind _ => true
  | .value _ => true
  | .wrongType _ => true
  | .noMember => true
  | .rowTooLong => true
  | .overflow => true
  | _ => false

/-- An outcome that can fail only by a fault in the arguments. -/
def Outcome.BlamesArguments {α : Type} (o : Outcome α) : Prop :=
  ∀ f, o = .error f → f.blamesArguments = true

namespace Outcome.BlamesArguments

variable {α β : Type}

@[simp] theorem ok (a : α) : BlamesArguments (.ok a) := nofun

@[simp] theorem error_iff {f : Failure} :
    BlamesArguments (.error f : Outcome α) ↔ f.blamesArguments = true :=
  ⟨fun h => h f rfl, fun h g hg => by cases hg; exact h⟩

theorem bind {o : Outcome α} {k : α → Outcome β} (h : o.BlamesArguments)
    (hk : ∀ a, (k a).BlamesArguments) : (o >>= k).BlamesArguments := by
  cases o with
  | ok a => exact hk a
  | error f => exact error_iff.mpr (error_iff.mp h)

theorem map {o : Outcome α} (h : o.BlamesArguments) (g : α → β) :
    BlamesArguments (o.map g) := by
  cases o with
  | ok a => exact ok (g a)
  | error f => exact error_iff.mpr (error_iff.mp h)

theorem mapM {g : α → Outcome β} (h : ∀ a, (g a).BlamesArguments) (items : List α) :
    BlamesArguments (items.mapM g) := by
  induction items with
  | nil => exact ok []
  | cons a rest ih =>
    rw [List.mapM_cons]
    exact (h a).bind fun b => ih.bind fun bs => ok (b :: bs)

theorem forM {g : α → Outcome Unit} (h : ∀ a, (g a).BlamesArguments) (items : List α) :
    BlamesArguments (items.forM g) := by
  induction items with
  | nil => exact ok ()
  | cons a rest ih => exact (h a).bind fun _ => ih

end Outcome.BlamesArguments

namespace Sql

open Outcome

theorem Binds.blames_next (binds : Binds) (base : String) :
    (binds.next base).BlamesArguments := by
  unfold next
  simp only
  split
  · exact BlamesArguments.error_iff.mpr rfl
  · exact .ok _

theorem ColumnName.blames_render (column : ColumnName) : column.render.BlamesArguments := by
  cases column <;> simp [render, Failure.blamesArguments]

theorem Predicate.blames_render (binds : Binds) (p : Predicate) :
    (p.render binds).BlamesArguments := by
  cases p with
  | isNull column positive => exact column.blames_render.bind fun name => .ok _
  | isTruth column positive truth => exact column.blames_render.bind fun name => .ok _
  | compare column relation operand =>
    exact column.blames_render.bind fun name => (binds.blames_next _).bind fun _ => .ok _
  | member column positive operands =>
    refine column.blames_render.bind fun name => (binds.blames_next _).bind fun _ => ?_
    cases positive <;> exact .ok _

theorem blames_renderPredicates (binds : Binds) (ps : List Predicate) :
    (renderPredicates binds ps).BlamesArguments := by
  induction ps generalizing binds with
  | nil => exact .ok _
  | cons p rest ih =>
    exact (p.blames_render binds).bind fun x => (ih x.2).bind fun _ => .ok _

theorem blames_orderClause (orders : List Order) : (orderClause orders).BlamesArguments := by
  have hrender : ∀ o : Order, o.render.BlamesArguments :=
    fun o => o.column.blames_render.bind fun name => .ok _
  exact (BlamesArguments.mapM hrender orders).bind fun names => .ok _

theorem Page.blames_render (binds : Binds) (page : Page) : (page.render binds).BlamesArguments := by
  unfold render
  split
  · exact .ok _
  · exact (binds.blames_next _).bind fun x => (x.2.blames_next _).bind fun y => .ok _

theorem Projection.blames_render (projection : Projection) :
    projection.render.BlamesArguments := by
  cases projection with
  | sum column => exact column.blames_render.bind fun name => .ok _
  | _ => exact .ok _

theorem Selection.blames_render (binds : Binds) (s : Selection) :
    (s.render binds).BlamesArguments :=
  s.projection.blames_render.bind fun _ => (blames_renderPredicates binds s.predicates).bind
    fun x => (blames_orderClause s.order).bind fun _ => (s.page.blames_render x.2).bind
      fun _ => .ok _

theorem Scope.blames_render (binds : Binds) (scope : Scope) :
    (scope.render binds).BlamesArguments := by
  cases scope with
  | all => exact .ok _
  | satisfying predicates => exact (blames_renderPredicates binds predicates).bind fun _ => .ok _
  | chosen rows => exact (rows.blames_render binds).bind fun _ => .ok _

theorem blames_checkRows (rows : List Value) : (checkRows rows).BlamesArguments := by
  refine (BlamesArguments.mapM (fun row => ?_) rows).bind fun lengths => ?_
  · cases row.members? with
    | some members => exact .ok _
    | none => exact BlamesArguments.error_iff.mpr rfl
  · simp only
    split
    · exact BlamesArguments.error_iff.mpr rfl
    · exact .ok _

theorem Predicate.blames_check (p : Predicate) : p.check.BlamesArguments := by
  cases p with
  | member column positive operands =>
    simp only [check]
    cases rowsOf? operands with
    | some rows => exact blames_checkRows rows
    | none => exact .ok _
  | _ => exact .ok _

theorem blames_lookUp (kept : BindName → BindName) (slots : List Slot) :
    (lookUp kept slots).BlamesArguments := by
  refine BlamesArguments.mapM (fun slot => ?_) slots
  unfold keptValue
  split
  · exact .ok _
  · exact BlamesArguments.error_iff.mpr rfl

theorem blames_checkDistinct (columns : List String) : (checkDistinct columns).BlamesArguments := by
  induction columns with
  | nil => exact .ok ()
  | cons column rest ih =>
    unfold checkDistinct
    split
    · exact BlamesArguments.error_iff.mpr rfl
    · exact ih

theorem Statement.blames_draft (s : Statement) : s.draft.BlamesArguments := by
  cases s with
  | select selection => exact (selection.blames_render _).bind fun _ => .ok _
  | insert table columns rows => exact (blames_checkDistinct columns).bind fun _ => .ok _
  | insertRow table columns row => exact (blames_checkDistinct columns).bind fun _ => .ok _
  | update table assignments scope =>
    exact (blames_checkDistinct _).bind fun _ => (scope.blames_render _).bind fun _ => .ok _
  | delete table scope => exact (scope.blames_render _).bind fun _ => .ok _

/-- A statement fails to render only by a fault in its arguments. -/
theorem Statement.blames_render (s : Statement) : s.render.BlamesArguments :=
  s.blames_draft.bind fun _ =>
    (BlamesArguments.forM Predicate.blames_check s.predicates).bind fun _ =>
      (blames_lookUp _ _).bind fun _ => .ok _

end Sql

end SqlBridge
