import SqlBridge.Proofs.Query.Condition
import SqlBridge.Proofs.Query.Levels
import SqlBridge.Proofs.Query.Rows
import SqlBridge.Proofs.Sql.SameText

/-!
Queries that differ in values only: in operands of the same shape, and in limits and offsets that
are whole numbers. They are compiled level by level in parallel, so the resulting statements differ
in values only, too.
-/

namespace SqlBridge

open Outcome (Alike)
open Sql

/-- Equal limits or offsets, or two whole numbers. -/
inductive Value.SameCount : Value → Value → Prop
  | same (v : Value) : SameCount v v
  | whole (n k : Int) : SameCount (.int n) (.int k)

namespace Criteria

/-- The conditions of one field with operands of the same shape. A value that is not an object has
no conditions. -/
inductive SameConditions : Value → Value → Prop
  | same (v : Value) : SameConditions v v
  | none {v v' : Value} (h : v.object? = .none) (h' : v'.object? = .none) : SameConditions v v'
  | object {conditions conditions' : Fields Value}
    (h : List.Forall₂ (fun condition condition' : String × Value =>
      condition.1 = condition'.1 ∧ condition.2.SameShape condition'.2) conditions conditions') :
    SameConditions (.object conditions) (.object conditions')

/-- Entries with the same name that differ in values only, with nested queries related by `R`. -/
inductive SameEntry (R : Value → Value → Prop) : Value × Value → Value × Value → Prop
  | same (entry : Value × Value) : SameEntry R entry entry
  | count {name : String} (hname : name = "limit" ∨ name = "offset") {v v' : Value}
    (h : v.SameCount v') : SameEntry R (.text name, v) (.text name, v')
  | nested {query query' : Value} (h : R query query') :
    SameEntry R (.text "where", query) (.text "where", query')
  | field {name v v' : Value} (hname : isShapingKey name = false) (h : SameConditions v v') :
    SameEntry R (name, v) (name, v')

/-- Queries that differ in values only: equal ones, or entries with the same names in the same order
that differ in values only. -/
inductive SameQuery : Value → Value → Prop
  | same (query : Value) : SameQuery query query
  | named {query query' : Value} {es es' : List (Value × Value)}
    (hread : entries query = .ok es) (hread' : entries query' = .ok es')
    (h : List.Forall₂ (SameEntry SameQuery) es es') : SameQuery query query'

/-- Levels that differ in values only. -/
structure Level.SameShape (level level' : Level) : Prop where
  limit : Option.Rel Value.SameCount level.limit level'.limit
  offset : Option.Rel Value.SameCount level.offset level'.offset
  order : level.order = level'.order
  nested : Option.Rel SameQuery level.nested level'.nested
  fields : List.Forall₂ (fun field field' => field.1 = field'.1 ∧ SameConditions field.2 field'.2)
    level.fields level'.fields

structure SameShape (c c' : Criteria) : Prop where
  predicates : List.Forall₂ Predicate.SameShape c.predicates c'.predicates
  order : c.order = c'.order
  limit : c.limit.SameCount c'.limit
  offset : c.offset.SameCount c'.offset

theorem SameEntry.name {R : Value → Value → Prop} {entry entry' : Value × Value}
    (h : SameEntry R entry entry') : entry.1 = entry'.1 := by
  cases h <;> rfl

/-- The relation of the values of related entries. -/
theorem SameEntry.value {R : Value → Value → Prop} {name v v' : Value}
    (h : SameEntry R (name, v) (name, v')) :
    v = v' ∨ (name = .text "limit" ∨ name = .text "offset") ∧ v.SameCount v' ∨
      name = .text "where" ∧ R v v' ∨ isShapingKey name = false ∧ SameConditions v v' := by
  cases h with
  | same entry => exact .inl rfl
  | count hname hcount =>
    rcases hname with rfl | rfl
    · exact .inr (.inl ⟨.inl rfl, hcount⟩)
    · exact .inr (.inl ⟨.inr rfl, hcount⟩)
  | nested hquery => exact .inr (.inr (.inl ⟨rfl, hquery⟩))
  | field hname hconditions => exact .inr (.inr (.inr ⟨hname, hconditions⟩))

/-- The values of a name are related as its entries are. -/
theorem rel_lookup? {R S : Value → Value → Prop} {name : String}
    (hS : ∀ v v', SameEntry R (.text name, v) (.text name, v') → S v v')
    {es es' : List (Value × Value)} (h : List.Forall₂ (SameEntry R) es es') :
    Option.Rel S (lookup? name es) (lookup? name es') := by
  induction h with
  | nil => exact .none
  | @cons entry entry' rest rest' hentry _ ih =>
    obtain ⟨key, v⟩ := entry
    obtain ⟨key', v'⟩ := entry'
    cases hentry.name
    cases key with
    | text s =>
      simp only [lookup?]
      by_cases hs : s = name
      · rw [if_pos hs, if_pos hs]
        rw [hs] at hentry
        exact .some (hS v v' hentry)
      · rw [if_neg hs, if_neg hs]
        exact ih
    | _ => exact ih

theorem rel_lookup?_count {es es' : List (Value × Value)}
    (h : List.Forall₂ (SameEntry SameQuery) es es') {name : String}
    (hname : name = "limit" ∨ name = "offset") :
    Option.Rel Value.SameCount (lookup? name es) (lookup? name es') := by
  refine rel_lookup? (fun v v' hentry => ?_) h
  have hkey : isShapingKey (.text name) = true := by rcases hname with rfl | rfl <;> decide
  rcases hentry.value with rfl | ⟨-, hcount⟩ | ⟨hwhere, -⟩ | ⟨hfield, -⟩
  · exact .same v
  · exact hcount
  · rcases hname with rfl | rfl <;> simp at hwhere
  · simp [hkey] at hfield

theorem lookup?_order_eq {es es' : List (Value × Value)}
    (h : List.Forall₂ (SameEntry SameQuery) es es') :
    lookup? "orderBy" es = lookup? "orderBy" es' := by
  have horder : Option.Rel Eq (lookup? "orderBy" es) (lookup? "orderBy" es') := by
    refine rel_lookup? (fun v v' hentry => ?_) h
    rcases hentry.value with heq | ⟨hname, -⟩ | ⟨hwhere, -⟩ | ⟨hfield, -⟩
    · exact heq
    · simp at hname
    · simp at hwhere
    · exact absurd hfield (by decide)
  generalize lookup? "orderBy" es = o, lookup? "orderBy" es' = o' at horder
  cases horder with
  | some heq => rw [heq]
  | none => rfl

theorem rel_lookup?_nested {es es' : List (Value × Value)}
    (h : List.Forall₂ (SameEntry SameQuery) es es') :
    Option.Rel SameQuery (lookup? "where" es) (lookup? "where" es') := by
  refine rel_lookup? (fun v v' hentry => ?_) h
  rcases hentry.value with rfl | ⟨hname, -⟩ | ⟨-, hquery⟩ | ⟨hfield, -⟩
  · exact .same v
  · simp at hname
  · exact hquery
  · exact absurd hfield (by decide)

theorem forall₂_fields {es es' : List (Value × Value)}
    (h : List.Forall₂ (SameEntry SameQuery) es es') :
    List.Forall₂ (fun field field' => field.1 = field'.1 ∧ SameConditions field.2 field'.2)
      (Level.ofEntries es).fields (Level.ofEntries es').fields := by
  unfold Level.ofEntries
  simp only
  induction h with
  | nil => exact .nil
  | @cons entry entry' rest rest' hentry _ ih =>
    obtain ⟨name, v⟩ := entry
    obtain ⟨name', v'⟩ := entry'
    cases hentry.name
    cases hkey : isShapingKey name with
    | true => simpa [hkey] using ih
    | false =>
      simp only [List.filter_cons, hkey, Bool.not_false, if_true]
      refine .cons ⟨rfl, ?_⟩ ih
      rcases hentry.value with rfl | ⟨hname, -⟩ | ⟨rfl, -⟩ | ⟨-, hconditions⟩
      · exact .same v
      · rcases hname with rfl | rfl <;> exact absurd hkey (by decide)
      · exact absurd hkey (by decide)
      · exact hconditions

theorem Level.sameShape_ofEntries {es es' : List (Value × Value)}
    (h : List.Forall₂ (SameEntry SameQuery) es es') :
    (Level.ofEntries es).SameShape (Level.ofEntries es') where
  limit := rel_lookup?_count h (.inl rfl)
  offset := rel_lookup?_count h (.inr rfl)
  order := lookup?_order_eq h
  nested := rel_lookup?_nested h
  fields := forall₂_fields h

/-- Operands of the same shape fail alike, or give predicates of the same shape. -/
theorem alike_predicate (column : ColumnName) (operator : Operator) {v v' : Value}
    (h : v.SameShape v') :
    Alike Predicate.SameShape (predicate column operator v) (predicate column operator v') := by
  cases h with
  | same v => exact Alike.refl Predicate.SameShape.same _
  | scalar hv hv' =>
    cases operator with
    | comparison relation =>
      simp only [predicate, comparison_of_isScalar hv, comparison_of_isScalar hv']
      split
      · exact .error _
      · exact .ok (.compare column relation v v')
    | membership positive =>
      simp only [predicate, membership_of_isScalar hv, membership_of_isScalar hv']
      split
      · exact .error _
      · exact .ok (.member column positive (.cons (.scalar hv hv') .nil))
  | list hitems =>
    cases operator with
    | comparison relation =>
      simp only [predicate, comparison]
      split
      · exact .error _
      · exact .ok (.compare column relation _ _)
    | membership positive =>
      simp only [predicate, membership]
      split
      · exact .error _
      · exact .ok (.member column positive hitems)

theorem alike_conditions (column : ColumnName) {conditions conditions' : Fields Value}
    (h : List.Forall₂ (fun condition condition' : String × Value =>
      condition.1 = condition'.1 ∧ condition.2.SameShape condition'.2) conditions conditions') :
    Alike (List.Forall₂ Predicate.SameShape) (Criteria.conditions column conditions)
      (Criteria.conditions column conditions') := by
  induction h with
  | nil => exact .ok .nil
  | @cons condition condition' rest rest' hcondition _ ih =>
    obtain ⟨key, v⟩ := condition
    obtain ⟨key', v'⟩ := condition'
    obtain ⟨hkey, hshape⟩ := hcondition
    cases hkey
    simp only [Criteria.conditions]
    split
    · next operator _ =>
      exact (alike_predicate column operator hshape).bind fun p p' hp =>
        ih.bind fun ps ps' hps => .ok (.cons hp hps)
    · exact ih

theorem alike_fieldPredicates (name : Value) {v v' : Value} (h : SameConditions v v') :
    Alike (List.Forall₂ Predicate.SameShape) (fieldPredicates (name, v))
      (fieldPredicates (name, v')) := by
  cases h with
  | same v => exact Alike.refl (fun ps => List.forall₂_same.mpr fun p _ => .same p) _
  | none hv hv' =>
    have hempty : ∀ v : Value, v.object? = .none → fieldPredicates (name, v) = .ok [] := by
      intro v hv
      cases v <;> simp_all [fieldPredicates, Value.object?]
    rw [hempty v hv, hempty v' hv']
    exact .ok .nil
  | object hconditions => exact alike_conditions _ hconditions

theorem alike_fieldsPredicates {fields fields' : List (Value × Value)}
    (h : List.Forall₂ (fun field field' => field.1 = field'.1 ∧ SameConditions field.2 field'.2)
      fields fields') :
    Alike (List.Forall₂ Predicate.SameShape) (fieldsPredicates fields)
      (fieldsPredicates fields') := by
  induction h with
  | nil => exact .ok .nil
  | @cons field field' rest rest' hfield _ ih =>
    obtain ⟨name, v⟩ := field
    obtain ⟨name', v'⟩ := field'
    obtain ⟨hname, hconditions⟩ := hfield
    cases hname
    exact (alike_fieldPredicates name hconditions).bind fun ps ps' hps =>
      ih.bind fun more more' hmore => .ok (List.rel_append hps hmore)

theorem sameCount_getD {o o' : Option Value} {v v' : Value}
    (h : Option.Rel Value.SameCount o o') (hv : v.SameCount v') :
    (o.getD v).SameCount (o'.getD v') := by
  cases h with
  | some hcount => exact hcount
  | none => exact hv

/-- The limit, offset and order of two levels, applied in parallel. -/
theorem alike_shape {c c' : Criteria} (hc : c.SameShape c') {level level' : Level}
    (h : level.SameShape level') : Alike SameShape (c.shape level) (c'.shape level') := by
  have horders : level.orders = level'.orders := by
    unfold Level.orders
    rw [h.order]
  rw [shape_eq, shape_eq, horders]
  apply (Alike.refl (fun orders => rfl) level'.orders).map
  intro orders _ horders
  cases horders
  exact ⟨hc.predicates, by rw [hc.order], sameCount_getD h.limit hc.limit,
    sameCount_getD h.offset hc.offset⟩

theorem alike_constrain {c c' : Criteria} (hc : c.SameShape c') {level level' : Level}
    (h : level.SameShape level') : Alike SameShape (c.constrain level) (c'.constrain level') :=
  (alike_fieldsPredicates h.fields).bind fun _ _ hps =>
    .ok ⟨List.rel_append hc.predicates hps, hc.order, hc.limit, hc.offset⟩

theorem putEntry_ne_nil (es : List (Value × Value)) (name v : Value) :
    putEntry es name v ≠ [] := by
  cases es with
  | nil => simp [putEntry]
  | cons entry rest =>
    simp only [putEntry]
    split <;> simp

theorem entriesFrom_ne_nil {index : Nat} {before es : List (Value × Value)} {members : List Value}
    (h : entriesFrom index before members = .ok es) (hne : before ≠ [] ∨ members ≠ []) :
    es ≠ [] := by
  induction members generalizing index before with
  | nil =>
    cases h
    simpa using hne
  | cons member rest ih =>
    obtain ⟨⟨name, v⟩, -, hrest⟩ := Outcome.bind_eq_ok_iff.mp h
    exact ih hrest (.inl (putEntry_ne_nil before name v))

/-- A readable query is falsy exactly when it has no entries. -/
theorem truthy_of_entries {query : Value} {es : List (Value × Value)}
    (h : entries query = .ok es) : query.truthy = !es.isEmpty := by
  cases query with
  | object fields =>
    cases h
    simp [Value.truthy]
  | list members =>
    cases members with
    | nil =>
      cases h
      rfl
    | cons member rest =>
      have hne : es ≠ [] := entriesFrom_ne_nil h (.inr (List.cons_ne_nil member rest))
      simpa [Value.truthy] using hne
  | text s =>
    cases hs : s.isEmpty <;> simp_all [entries, Value.truthy]
  | _ => simp [entries] at h

theorem SameQuery.read {query query' : Value} (h : SameQuery query query') :
    query.truthy = query'.truthy ∧
      Alike (List.Forall₂ (SameEntry SameQuery)) (entries query) (entries query') := by
  cases h with
  | same query =>
    exact ⟨rfl, Alike.refl (fun es => List.forall₂_same.mpr fun entry _ => .same entry) _⟩
  | named hread hread' hes =>
    rw [truthy_of_entries hread, truthy_of_entries hread', hread, hread']
    refine ⟨?_, .ok hes⟩
    cases hes <;> rfl

/-- The queries are compiled side by side: the induction is on the fuel, which the nested
queries of both levels share. -/
theorem alike_compileWith (fuel : Nat) {c c' : Criteria} (hc : c.SameShape c')
    {query query' : Value} (h : SameQuery query query') :
    Alike SameShape (compileWith fuel c query) (compileWith fuel c' query') := by
  induction fuel generalizing c c' query query' with
  | zero => exact .ok hc
  | succ n ih =>
    obtain ⟨htruthy, hentries⟩ := h.read
    simp only [compileWith, htruthy]
    split
    · apply hentries.bind
      intro es es' hes
      have hlevel := Level.sameShape_ofEntries hes
      apply (alike_shape hc hlevel).bind
      intro shaped shaped' hshaped
      have hnested := hlevel.nested
      generalize (Level.ofEntries es).nested = nested, (Level.ofEntries es').nested = nested'
        at hnested ⊢
      cases hnested with
      | some hquery =>
        exact (ih hshaped hquery).bind fun inner inner' hcriteria =>
          alike_constrain hcriteria hlevel
      | none => exact alike_constrain hshaped hlevel
    · exact .ok hc

theorem SameShape.refl (c : Criteria) : c.SameShape c :=
  ⟨List.forall₂_same.mpr fun p _ => .same p, rfl, .same _, .same _⟩

theorem alike_compile {query query' : Value} (h : SameQuery query query') :
    Alike SameShape (empty.compile query) (empty.compile query') := by
  unfold compile
  rw [compileWith_fuel _ (query.depth + query'.depth + 1) empty query (by omega) (by omega),
    compileWith_fuel _ (query.depth + query'.depth + 1) empty query' (by omega) (by omega)]
  exact alike_compileWith _ (SameShape.refl empty) h

theorem SameShape.paginated {c c' : Criteria} (h : c.SameShape c') :
    c.paginated = c'.paginated := by
  have hnull : ∀ {v v' : Value}, v.SameCount v' → v.isNull = v'.isNull := by
    intro v v' hcount
    cases hcount <;> rfl
  unfold Criteria.paginated
  rw [hnull h.limit, hnull h.offset, h.order]

theorem alike_pageNumber {v v' : Value} (h : v.SameCount v') :
    Alike (fun n n' => n.isSome = n'.isSome) (pageNumber v) (pageNumber v') := by
  cases h with
  | same v =>
    refine Alike.refl (fun n => ?_) _
    rfl
  | whole n k => exact .ok rfl

theorem alike_page {c c' : Criteria} (h : c.SameShape c') :
    Alike Page.SameShape c.page c'.page :=
  (alike_pageNumber h.limit).bind fun _ _ hlimit =>
    (alike_pageNumber h.offset).bind fun _ _ hoffset => .ok ⟨hlimit, hoffset⟩

theorem alike_select {c c' : Criteria} (h : c.SameShape c') (projection : Projection)
    (table : String) :
    Alike Selection.SameShape (c.select projection table) (c'.select projection table) :=
  (alike_page h).bind fun _ _ hpage => .ok ⟨rfl, rfl, h.predicates, h.order, hpage⟩

theorem alike_scope {c c' : Criteria} (h : c.SameShape c') (table : String) :
    Alike Scope.SameShape (c.scope table) (c'.scope table) := by
  unfold scope
  rw [h.paginated]
  split
  · exact (alike_select h .rowId table).map fun rows rows' hrows => .chosen hrows
  · have hpredicates := h.predicates
    generalize c.predicates = predicates, c'.predicates = predicates' at hpredicates ⊢
    cases hpredicates with
    | nil => exact .ok .all
    | cons hfirst hrest => exact .ok (.satisfying (.cons hfirst hrest))

end Criteria

end SqlBridge
