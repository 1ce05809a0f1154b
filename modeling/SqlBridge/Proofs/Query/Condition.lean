import SqlBridge.Proofs.Sql.Parameter
import SqlBridge.Query

/-!
Conditions with numbers and texts as operands: comparisons with one, and memberships in lists of
them. Each one is compiled to its own predicate and rendered with one placeholder for each operand,
after any parameter names.
-/

namespace SqlBridge.Criteria

open Sql

/-- Numbers and texts can be compared with any named column. -/
theorem comparison_of_isScalar {v : Value} (h : v.isScalar = true) (column : ColumnName)
    (relation : Relation) :
    comparison column relation v =
      if column = .numeric then .error (.wrongType "") else .ok (.compare column relation v) := by
  cases v <;> simp_all [Value.isScalar, comparison]

theorem membership_of_isScalar {v : Value} (h : v.isScalar = true) (column : ColumnName)
    (positive : Bool) :
    membership column positive v =
      if column = .numeric then .error (.wrongType "") else .ok (.member column positive [v]) := by
  cases v <;> simp_all [Value.isScalar, membership, operands]

/-- A recognised operator on a column, with its operand. -/
structure Condition where
  column : String
  operator : Operator
  operand : Value

namespace Condition

/-- Comparisons with numbers and texts, and memberships in lists of them. -/
def Fits (condition : Condition) : Prop :=
  match condition.operator with
  | .comparison _ => condition.operand.isScalar = true
  | .membership _ => ∃ items, condition.operand = .list items ∧ ∀ v ∈ items, v.isScalar = true

/-- The operands passed as parameters, in order. -/
def operands (condition : Condition) : List Value :=
  match condition.operator, condition.operand with
  | .membership _, .list items => items
  | _, v => [v]

/-- The placeholders of operands between parentheses, or a read of no rows when there are none. -/
def memberText (count : ℕ) : String :=
  if count = 0 then "(SELECT 1 FROM (SELECT 1) WHERE 1!=1)"
  else "(" ++ ", ".intercalate (List.replicate count "?") ++ ")"

/-- The text of a condition. -/
def text (condition : Condition) : String :=
  match condition.operator with
  | .comparison relation => identifier condition.column ++ " " ++ relation.symbol ++ " ?"
  | .membership true =>
    identifier condition.column ++ " IN " ++ memberText condition.operands.length
  | .membership false =>
    "(" ++ identifier condition.column ++ " NOT IN " ++ memberText condition.operands.length ++ ")"

/-- The predicate of a fitting condition. -/
def predicate (condition : Condition) : Predicate :=
  match condition.operator with
  | .comparison relation => .compare (.named condition.column) relation condition.operand
  | .membership positive => .member (.named condition.column) positive condition.operands

def fragment (condition : Condition) : Fragment Value := ⟨condition.text, condition.operands⟩

end Condition

/-- The recognised conditions of one field, in order. -/
def fieldConditions : Value × Value → List Condition
  | (.text column, .object conditions) => conditions.filterMap fun (key, operand) =>
    (Operator.ofText? key).map fun operator => ⟨column, operator, operand⟩
  | _ => []

namespace Condition

theorem rowsOf?_operands {condition : Condition} {positive : Bool} (h : condition.Fits)
    (hoperator : condition.operator = .membership positive) :
    rowsOf? condition.operands = none := by
  obtain ⟨column, operator, operand⟩ := condition
  cases hoperator
  obtain ⟨items, hitems, hscalars⟩ := h
  cases hitems
  exact Value.rowsOf?_eq_none hscalars

theorem check_predicate {condition : Condition} (h : condition.Fits) :
    condition.predicate.check = .ok () := by
  unfold predicate
  cases hoperator : condition.operator with
  | comparison relation => rfl
  | membership positive => simp [Predicate.check, rowsOf?_operands h hoperator]

theorem group_eq (operands : List Value) (hne : operands ≠ []) :
    group operands = ⟨memberText operands.length, operands⟩ := by
  have hlength : operands.length ≠ 0 := by simpa using hne
  have htext : (group operands).text = memberText operands.length := by
    rw [text_group, memberText, if_neg hlength]
  calc
    group operands = ⟨(group operands).text, (group operands).params⟩ := rfl
    _ = ⟨memberText operands.length, operands⟩ := by rw [htext, params_group]

theorem values_memberGroup {name : String} {operands : List Value} (hname : expands name = true)
    (hrows : rowsOf? operands = none) :
    (memberGroup name operands).values = ⟨memberText operands.length, operands⟩ := by
  unfold memberGroup
  rw [hname]
  cases operands with
  | nil => rfl
  | cons first rest => simp [hrows, values_group, group_eq]

/-- A fitting condition on a plain column is rendered after any parameter names. -/
theorem render_predicate {condition : Condition} (h : condition.Fits)
    (hplain : isPlainName condition.column = true) (before : List String) :
    ∃ f after, condition.predicate.render ⟨[], before⟩ = .ok (f, ⟨[], after⟩) ∧
      f.values = condition.fragment := by
  obtain ⟨column, operator, operand⟩ := condition
  cases operator with
  | comparison relation =>
    have htext : identifier column ++ " " ++ relation.symbol ++ " " ++ "?" =
        identifier column ++ " " ++ relation.symbol ++ " ?" := by
      rw [String.append_assoc]
      rfl
    simp only [predicate, Predicate.render, ColumnName.render, ColumnName.base,
      Binds.next_free, Outcome.ok_bind, Outcome.pure_eq_ok, fragment, text, operands]
    refine ⟨_, _, rfl, ?_⟩
    rw [← htext]
    rfl
  | membership positive =>
    have hmembers := values_memberGroup
      (expands_of_isPlainName hplain (before.count (bindBase column) + 1)) (rowsOf?_operands h rfl)
    simp only [predicate, Predicate.render_member, ColumnName.render, ColumnName.base,
      Binds.next_free, Outcome.ok_bind]
    refine ⟨_, _, rfl, ?_⟩
    rw [values_memberCondition, hmembers]
    cases positive with
    | true => simp [memberCondition, fragment, text, Fragment.ofText, Fragment.mk_append_mk]
    | false => simp [memberCondition, fragment, text, Fragment.ofText, Fragment.mk_append_mk]

theorem counts_memberText (n : ℕ) : Counts (memberText n) n := by
  by_cases hn : n = 0
  · rw [hn]
    decide
  · have hne : List.replicate n Value.null ≠ [] := by simpa using hn
    have haligned := aligned_group (List.replicate n Value.null)
    rw [group_eq _ hne] at haligned
    simpa [Fragment.Aligned] using haligned

/-- A condition has one placeholder for each of its operands. -/
theorem counts_text (condition : Condition) :
    Counts condition.text condition.operands.length := by
  obtain ⟨column, operator, operand⟩ := condition
  have hname := counts_identifier column
  cases operator with
  | comparison relation =>
    have hsymbol : Counts (" " ++ relation.symbol ++ " ?") 1 := by cases relation <;> decide
    have h := hname.append hsymbol
    simpa [text, operands, String.append_assoc] using h
  | membership positive =>
    have hmembers := counts_memberText
      (⟨column, .membership positive, operand⟩ : Condition).operands.length
    cases positive with
    | true =>
      have hin : Counts " IN " 0 := by decide
      simpa [text] using (hname.append hin).append hmembers
    | false =>
      have hopen : Counts "(" 0 := by decide
      have hnotIn : Counts " NOT IN " 0 := by decide
      have hclose : Counts ")" 0 := by decide
      simpa [text] using (((hopen.append hname).append hnotIn).append hmembers).append hclose

/-- A fitting condition compiles to its predicate. -/
theorem predicate_eq {condition : Condition} (h : condition.Fits) :
    Criteria.predicate (.named condition.column) condition.operator condition.operand =
      .ok condition.predicate := by
  obtain ⟨column, operator, operand⟩ := condition
  cases operator with
  | comparison relation =>
    have hscalar : operand.isScalar = true := h
    simp [Criteria.predicate, comparison_of_isScalar hscalar, predicate]
  | membership positive =>
    obtain ⟨items, hitems, -⟩ := h
    cases hitems
    simp [Criteria.predicate, membership, Criteria.operands, predicate, operands]

end Condition

theorem conditions_eq (column : String) (conditions : Fields Value)
    (h : ∀ condition ∈ fieldConditions (.text column, .object conditions), condition.Fits) :
    Criteria.conditions (.named column) conditions =
      .ok ((fieldConditions (.text column, .object conditions)).map Condition.predicate) := by
  induction conditions with
  | nil => rfl
  | cons first rest ih =>
    obtain ⟨key, operand⟩ := first
    cases hoperator : Operator.ofText? key with
    | none =>
      have hskip : fieldConditions (.text column, .object ((key, operand) :: rest)) =
          fieldConditions (.text column, .object rest) := by simp [fieldConditions, hoperator]
      rw [hskip] at h ⊢
      simp only [Criteria.conditions, hoperator, ih h]
    | some operator =>
      have htake : fieldConditions (.text column, .object ((key, operand) :: rest)) =
          ⟨column, operator, operand⟩ :: fieldConditions (.text column, .object rest) := by
        simp [fieldConditions, hoperator]
      rw [htake] at h ⊢
      have hfirst := Condition.predicate_eq (h _ List.mem_cons_self)
      have hrest := ih fun condition hc => h condition (List.mem_cons_of_mem _ hc)
      simp only [Criteria.conditions, hoperator, hfirst, hrest, Outcome.ok_bind]
      rfl

theorem fieldsPredicates_eq (fields : List (Value × Value))
    (hcolumns : ∀ field ∈ fields, ∃ name, field.1 = .text name ∧ isPlainName name = true)
    (hfits : ∀ condition ∈ fields.flatMap fieldConditions, condition.Fits) :
    fieldsPredicates fields = .ok ((fields.flatMap fieldConditions).map Condition.predicate) := by
  induction fields with
  | nil => rfl
  | cons field rest ih =>
    obtain ⟨name, hname, -⟩ := hcolumns field List.mem_cons_self
    obtain ⟨key, v⟩ := field
    cases hname
    have hrest := ih (fun other hother => hcolumns other (List.mem_cons_of_mem _ hother))
      fun condition hc => hfits condition (by simp [hc])
    have hfield : fieldPredicates (.text name, v) =
        .ok ((fieldConditions (.text name, v)).map Condition.predicate) := by
      cases v with
      | object conditions =>
        exact conditions_eq name conditions fun condition hc => hfits condition (by simp [hc])
      | _ => rfl
    simp only [fieldsPredicates, hfield, hrest, Outcome.ok_bind, List.flatMap_cons,
      List.map_append]
    rfl

/-- The rendered conditions of a read, after the parameter names in `before`. -/
theorem renderPredicates_eq (conditions : List Condition) (hfits : ∀ c ∈ conditions, c.Fits)
    (hplain : ∀ c ∈ conditions, isPlainName c.column = true) (before : List String) :
    ∃ fragments after, renderPredicates ⟨[], before⟩ (conditions.map Condition.predicate) =
      .ok (fragments, ⟨[], after⟩) ∧
        fragments.map Fragment.values = conditions.map Condition.fragment := by
  induction conditions generalizing before with
  | nil => exact ⟨[], before, rfl, rfl⟩
  | cons condition rest ih =>
    obtain ⟨f, middle, hfirst, hf⟩ := Condition.render_predicate
      (hfits condition List.mem_cons_self) (hplain condition List.mem_cons_self) before
    obtain ⟨fragments, after, hrest, hvalues⟩ :=
      ih (fun c hc => hfits c (List.mem_cons_of_mem condition hc))
        (fun c hc => hplain c (List.mem_cons_of_mem condition hc)) middle
    refine ⟨f :: fragments, after, ?_, ?_⟩
    · simp only [List.map_cons, renderPredicates, hfirst, Outcome.ok_bind, hrest]
      rfl
    · rw [List.map_cons, List.map_cons, hf, hvalues]

/-- All conditions joined, after a lead unless there are none. -/
def whereText (lead : String) (conditions : List Condition) : String :=
  if conditions.isEmpty then "" else lead ++ " AND ".intercalate (conditions.map Condition.text)

theorem whereClause_eq (lead : String) (conditions : List Condition) :
    whereClause lead (conditions.map Condition.fragment) =
      ⟨whereText lead conditions, conditions.flatMap Condition.operands⟩ := by
  cases conditions with
  | nil => rfl
  | cons first rest =>
    have htext := Fragment.text_join " AND " ((first :: rest).map Condition.fragment)
    have hparams := Fragment.params_join " AND " ((first :: rest).map Condition.fragment)
    simp only [List.map_map, List.flatMap_map] at htext hparams
    change (⟨lead ++ (Fragment.join " AND " _).text, [] ++ (Fragment.join " AND " _).params⟩ :
      Fragment Value) = _
    rw [htext, hparams]
    rfl

theorem counts_whereText {lead : String} (hlead : Counts lead 0) (conditions : List Condition) :
    Counts (whereText lead conditions) (conditions.flatMap Condition.operands).length := by
  have haligned : (whereClause lead (conditions.map Condition.fragment)).Aligned := by
    cases conditions with
    | nil => exact Fragment.aligned_ofText (by decide)
    | cons first rest =>
      refine (Fragment.aligned_ofText hlead).append (Fragment.aligned_join (by decide) ?_)
      intro f hf
      obtain ⟨condition, -, rfl⟩ := List.mem_map.mp hf
      exact condition.counts_text
  rw [whereClause_eq] at haligned
  exact haligned

end SqlBridge.Criteria
