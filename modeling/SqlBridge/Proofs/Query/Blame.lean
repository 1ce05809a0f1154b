import SqlBridge.Adapter.Record
import SqlBridge.Proofs.Sql.Blame

/-!
Failures of compiling a query and of taking records apart. As with the rendering of statements,
every failure is a fault in the arguments.
-/

namespace SqlBridge

open Sql Outcome

theorem blames_entryOf (index : Nat) (member : Value) :
    (entryOf index member).BlamesArguments := by
  unfold entryOf
  split
  · exact BlamesArguments.error_iff.mpr rfl
  · split
    · exact .ok _
    · exact BlamesArguments.error_iff.mpr rfl
  · exact BlamesArguments.error_iff.mpr rfl

theorem blames_entriesFrom (index : Nat) (taken : List (Value × Value)) (members : List Value) :
    (entriesFrom index taken members).BlamesArguments := by
  induction members generalizing index taken with
  | nil => exact .ok _
  | cons member rest ih => exact (blames_entryOf index member).bind fun _ => ih _ _

theorem blames_entries (v : Value) : (entries v).BlamesArguments := by
  cases v with
  | object fields => exact .ok _
  | list members => exact blames_entriesFrom 0 [] members
  | text s =>
    simp only [entries]
    split
    · exact .ok _
    · exact BlamesArguments.error_iff.mpr rfl
  | _ => exact BlamesArguments.error_iff.mpr rfl

namespace Criteria

theorem blames_comparison (column : ColumnName) (relation : Relation) (operand : Value) :
    (comparison column relation operand).BlamesArguments := by
  unfold comparison
  split
  · cases relation <;> simp [Failure.blamesArguments]
  · cases relation <;> simp [Failure.blamesArguments]
  · split
    · exact BlamesArguments.error_iff.mpr rfl
    · exact .ok _

theorem blames_membership (column : ColumnName) (positive : Bool) (operand : Value) :
    (membership column positive operand).BlamesArguments := by
  unfold membership
  split
  · exact BlamesArguments.error_iff.mpr rfl
  · exact .ok _

theorem blames_predicate (column : ColumnName) (operator : Operator) (operand : Value) :
    (predicate column operator operand).BlamesArguments := by
  cases operator with
  | comparison relation => exact blames_comparison column relation operand
  | membership positive => exact blames_membership column positive operand

theorem blames_conditions (column : ColumnName) (fields : Fields Value) :
    (conditions column fields).BlamesArguments := by
  induction fields with
  | nil => exact .ok _
  | cons field rest ih =>
    obtain ⟨key, operand⟩ := field
    simp only [conditions]
    cases Operator.ofText? key with
    | some operator =>
      exact (blames_predicate column operator operand).bind fun _ => ih.bind fun _ => .ok _
    | none => exact ih

theorem blames_fieldsPredicates (fields : List (Value × Value)) :
    (fieldsPredicates fields).BlamesArguments := by
  induction fields with
  | nil => exact .ok _
  | cons field rest ih =>
    have hfield : (fieldPredicates field).BlamesArguments := by
      unfold fieldPredicates
      split
      · exact blames_conditions _ _
      · exact .ok _
    exact hfield.bind fun _ => ih.bind fun _ => .ok _

theorem blames_orderEntry (entry : Value) : (orderEntry entry).BlamesArguments := by
  unfold orderEntry
  split
  · exact .ok _
  · split
    · exact BlamesArguments.error_iff.mpr rfl
    · exact .ok _
    · split <;> exact BlamesArguments.error_iff.mpr rfl

theorem blames_orderEntries (v : Value) : (orderEntries v).BlamesArguments := by
  unfold orderEntries
  split
  · split
    · exact BlamesArguments.mapM blames_orderEntry _
    · exact BlamesArguments.error_iff.mpr rfl
  · exact .ok _

theorem blames_shape (c : Criteria) (level : Level) : (c.shape level).BlamesArguments := by
  unfold shape
  cases level.order with
  | some v => exact (blames_orderEntries v).bind fun _ => .ok _
  | none => exact .ok _

theorem blames_constrain (c : Criteria) (level : Level) : (c.constrain level).BlamesArguments :=
  (blames_fieldsPredicates level.fields).bind fun _ => .ok _

theorem blames_compileWith (fuel : Nat) (c : Criteria) (query : Value) :
    (compileWith fuel c query).BlamesArguments := by
  induction fuel generalizing c query with
  | zero => exact .ok _
  | succ fuel ih =>
    simp only [compileWith]
    split
    · refine (blames_entries query).bind fun entries => ?_
      refine (blames_shape c (Level.ofEntries entries)).bind fun shaped => ?_
      cases (Level.ofEntries entries).nested with
      | some nested => exact (ih shaped nested).bind fun inner => blames_constrain inner _
      | none => exact blames_constrain shaped _
    · exact .ok _

theorem blames_compile (c : Criteria) (query : Value) : (c.compile query).BlamesArguments :=
  blames_compileWith _ c query

theorem blames_wholeNumber (v : Value) : (wholeNumber v).BlamesArguments := by
  cases v with
  | double x =>
    simp only [wholeNumber]
    cases x.truncate? with
    | some n => exact .ok _
    | none =>
      rw [BlamesArguments.error_iff]
      split <;> rfl
  | text s =>
    simp only [wholeNumber]
    split
    · exact .ok _
    · exact BlamesArguments.error_iff.mpr rfl
    · exact BlamesArguments.error_iff.mpr rfl
  | bool b => exact .ok _
  | int n => exact .ok _
  | _ => exact BlamesArguments.error_iff.mpr rfl

theorem blames_pageNumber (v : Value) : (pageNumber v).BlamesArguments := by
  unfold pageNumber
  split
  · exact .ok _
  · exact (blames_wholeNumber v).map some

theorem blames_select (c : Criteria) (projection : Projection) (table : String) :
    (c.select projection table).BlamesArguments :=
  ((blames_pageNumber c.limit).bind fun _ => (blames_pageNumber c.offset).bind fun _ => .ok _).bind
    fun _ => .ok _

theorem blames_scope (c : Criteria) (table : String) : (c.scope table).BlamesArguments := by
  unfold scope
  split
  · exact (blames_select c .rowId table).map Scope.chosen
  · split <;> exact .ok _

end Criteria

namespace Adapter

theorem blames_checkColumn (v : Value) : (checkColumn v).BlamesArguments := by
  cases v <;> simp [checkColumn, Failure.blamesArguments]

theorem blames_size (v : Value) : (size v).BlamesArguments := by
  unfold size
  split
  · exact .ok _
  · exact BlamesArguments.error_iff.mpr rfl

theorem blames_newRecord (props : Value) : (newRecord props).BlamesArguments := by
  have hnamed : ∀ entry, (namedEntry entry).BlamesArguments := by
    intro entry
    unfold namedEntry
    split
    · exact .ok _
    · exact BlamesArguments.error_iff.mpr rfl
  exact (blames_entries props).bind fun entries =>
    (BlamesArguments.forM (fun entry => blames_checkColumn entry.1) entries).bind fun _ =>
      BlamesArguments.mapM hnamed entries

theorem blames_changeColumns (props : Value) : (changeColumns props).BlamesArguments := by
  unfold changeColumns
  split
  · exact BlamesArguments.forM blames_checkColumn _
  · exact BlamesArguments.error_iff.mpr rfl

theorem blames_changes (props : Value) : (changes props).BlamesArguments := by
  cases props <;> simp [changes, Failure.blamesArguments]

theorem blames_rowNames (names rows : List Value) : (rowNames names rows).BlamesArguments := by
  induction rows generalizing names with
  | nil => exact .ok _
  | cons row rest ih =>
    simp only [rowNames]
    cases row.members? with
    | some members => exact ih _
    | none => exact BlamesArguments.error_iff.mpr rfl

theorem blames_newRow (columns : List String) (row : Value) :
    (newRow columns row).BlamesArguments := by
  unfold newRow
  split
  · exact .ok _
  · split
    · exact .ok _
    · exact BlamesArguments.error_iff.mpr rfl

theorem blames_newRows (rows : List Value) : (newRows rows).BlamesArguments :=
  (blames_rowNames [] rows).bind fun names =>
    (BlamesArguments.forM blames_checkColumn names).bind fun _ =>
      (BlamesArguments.mapM (blames_newRow _) rows).bind fun _ => .ok _

end Adapter

end SqlBridge
