import SqlBridge.Proofs.Sql.Clause

/-!
Statements that differ in values only. Null and truth values occur in the text and every other value
is a placeholder, so two statements have the same text if their nulls and truth values, their
columns and the lengths of their lists are the same. They also fail alike, by their columns and
independently of the values.
-/

namespace SqlBridge

namespace Value

/-- The same null or truth value, or any two numbers or texts. -/
inductive SameScalar : Value → Value → Prop
  | null : SameScalar .null .null
  | bool (b : Bool) : SameScalar (.bool b) (.bool b)
  | scalar {v v' : Value} (h : v.isScalar = true) (h' : v'.isScalar = true) : SameScalar v v'

/-- Operands of the same shape: equal ones, two numbers or texts, or two lists of scalars that match
one by one. -/
inductive SameShape : Value → Value → Prop
  | same (v : Value) : SameShape v v
  | scalar {v v' : Value} (h : v.isScalar = true) (h' : v'.isScalar = true) : SameShape v v'
  | list {items items' : List Value} (h : List.Forall₂ SameScalar items items') :
    SameShape (.list items) (.list items')

end Value

namespace Sql

open Outcome (Alike)

theorem rowsOf?_of_sameScalar {items items' : List Value}
    (h : List.Forall₂ Value.SameScalar items items') :
    rowsOf? items = none ∧ rowsOf? items' = none := by
  cases h with
  | nil => exact ⟨rfl, rfl⟩
  | @cons v v' _ _ hfirst _ =>
    cases hfirst with
    | null => exact ⟨rfl, rfl⟩
    | bool b => exact ⟨rfl, rfl⟩
    | scalar hv hv' => cases v <;> cases v' <;> simp_all [Value.isScalar, rowsOf?]

/-- Drafts with the same text and the same names at their placeholders. -/
structure Fragment.SameText (f f' : Fragment Slot) : Prop where
  text : f.text = f'.text
  names : f.params.map Slot.name = f'.params.map Slot.name

namespace Fragment.SameText

theorem refl (f : Fragment Slot) : f.SameText f := ⟨rfl, rfl⟩

theorem append {f f' g g' : Fragment Slot} (hf : f.SameText f') (hg : g.SameText g') :
    (f ++ g).SameText (f' ++ g') :=
  ⟨by rw [text_append, text_append, hf.text, hg.text],
    by rw [params_append, params_append, List.map_append, List.map_append, hf.names, hg.names]⟩

theorem join (separator : String) {fragments fragments' : List (Fragment Slot)}
    (h : List.Forall₂ SameText fragments fragments') :
    (Fragment.join separator fragments).SameText (Fragment.join separator fragments') := by
  induction h with
  | nil => exact refl _
  | cons hfirst hrest ih =>
    cases hrest with
    | nil => exact hfirst
    | cons hsecond hmore => exact (hfirst.append (refl _)).append ih

/-- Placeholders have the same text if their names are equal. -/
theorem placeholder {slot slot' : Slot} (h : slot.name = slot'.name) :
    (Sql.placeholder slot).SameText (Sql.placeholder slot') :=
  ⟨rfl, congrArg (fun name => [name]) h⟩

theorem group {slots slots' : List Slot} (h : slots.map Slot.name = slots'.map Slot.name) :
    (Sql.group slots).SameText (Sql.group slots') := by
  have hlength : slots.length = slots'.length := by simpa using congrArg List.length h
  exact ⟨by rw [text_group, text_group, hlength], by rw [params_group, params_group, h]⟩

end Fragment.SameText

/-- The names of members depend on their number only. -/
theorem names_memberSlots (name : String) (place : List ℕ) (values : List Value) :
    (memberSlots name place values).map Slot.name =
      (List.range' 1 values.length).map fun i => ⟨name, place ++ [i]⟩ := by
  rw [← List.zipIdx_map_snd 1 values, memberSlots, List.map_map, List.map_map]
  rfl

/-- The text of a member list depends on the number of its members only. -/
theorem sameText_memberGroup (name : String) {items items' : List Value}
    (h : List.Forall₂ Value.SameScalar items items') :
    (memberGroup name items).SameText (memberGroup name items') := by
  obtain ⟨hrows, hrows'⟩ := rowsOf?_of_sameScalar h
  unfold memberGroup
  cases expands name with
  | false => exact .refl _
  | true =>
    cases h with
    | nil => exact .refl _
    | cons hfirst hrest =>
      simp only [Bool.not_true, Bool.false_eq_true, if_false, List.isEmpty_cons, hrows, hrows']
      refine .group ?_
      rw [names_memberSlots, names_memberSlots, List.length_cons, List.length_cons,
        hrest.length_eq]

/-- Predicates with operands of the same shape. The operand of a comparison is always a placeholder.
-/
inductive Predicate.SameShape : Predicate → Predicate → Prop
  | same (p : Predicate) : SameShape p p
  | compare (column : ColumnName) (relation : Relation) (v v' : Value) :
    SameShape (.compare column relation v) (.compare column relation v')
  | member (column : ColumnName) (positive : Bool) {items items' : List Value}
    (h : List.Forall₂ Value.SameScalar items items') :
    SameShape (.member column positive items) (.member column positive items')

/-- Pages that agree on having a limit and on having an offset. -/
structure Page.SameShape (p p' : Page) : Prop where
  limit : p.limit.isSome = p'.limit.isSome
  offset : p.offset.isSome = p'.offset.isSome

structure Selection.SameShape (s s' : Selection) : Prop where
  projection : s.projection = s'.projection
  table : s.table = s'.table
  predicates : List.Forall₂ Predicate.SameShape s.predicates s'.predicates
  order : s.order = s'.order
  page : s.page.SameShape s'.page

inductive Scope.SameShape : Scope → Scope → Prop
  | all : SameShape .all .all
  | satisfying {predicates predicates' : List Predicate}
    (h : List.Forall₂ Predicate.SameShape predicates predicates') :
    SameShape (.satisfying predicates) (.satisfying predicates')
  | chosen {rows rows' : Selection} (h : rows.SameShape rows') :
    SameShape (.chosen rows) (.chosen rows')

/-- Statements that differ in values only. -/
inductive Statement.SameShape : Statement → Statement → Prop
  | select {s s' : Selection} (h : s.SameShape s') : SameShape (.select s) (.select s')
  | insert (table : String) (columns : List String) {rows rows' : List (List Value)}
    (h : List.Forall₂ (fun row row' => row.length = row'.length) rows rows') :
    SameShape (.insert table columns rows) (.insert table columns rows')
  | insertRow (table : String) (columns : List String) {row row' : List Value}
    (h : row.length = row'.length) :
    SameShape (.insertRow table columns row) (.insertRow table columns row')
  | update (table : String) {assignments assignments' : Fields Value} {scope scope' : Scope}
    (hkeys : assignments.keys = assignments'.keys) (h : scope.SameShape scope') :
    SameShape (.update table assignments scope) (.update table assignments' scope')
  | delete (table : String) {scope scope' : Scope} (h : scope.SameShape scope') :
    SameShape (.delete table scope) (.delete table scope')

/-- Pieces with the same text and names, and the same names taken after them. -/
def SameText (x x' : Fragment Slot × Binds) : Prop := x.1.SameText x'.1 ∧ x.2 = x'.2

theorem Predicate.SameShape.render {p p' : Predicate} (h : p.SameShape p') (binds : Binds) :
    Alike SameText (p.render binds) (p'.render binds) := by
  cases h with
  | same p => exact Alike.refl (fun x => ⟨.refl x.1, rfl⟩) _
  | compare column relation v v' =>
    apply Alike.after column.render
    intro name
    apply Alike.after (binds.next column.base)
    intro x
    exact .ok ⟨(Fragment.SameText.refl _).append (.placeholder rfl), rfl⟩
  | member column positive hitems =>
    rw [Predicate.render_member, Predicate.render_member]
    apply Alike.after column.render
    intro name
    apply Alike.after (binds.next column.base)
    intro x
    have hmembers := sameText_memberGroup x.1 hitems
    refine .ok ⟨?_, rfl⟩
    cases positive with
    | true => exact (Fragment.SameText.refl _).append hmembers
    | false => exact ((Fragment.SameText.refl _).append hmembers).append (.refl _)

theorem alike_renderPredicates {predicates predicates' : List Predicate}
    (h : List.Forall₂ Predicate.SameShape predicates predicates') (binds : Binds) :
    Alike (fun x x' => List.Forall₂ Fragment.SameText x.1 x'.1 ∧ x.2 = x'.2)
      (renderPredicates binds predicates) (renderPredicates binds predicates') := by
  induction h generalizing binds with
  | nil => exact .ok ⟨.nil, rfl⟩
  | cons hfirst _ ih =>
    apply (hfirst.render binds).bind
    intro x x' hx
    obtain ⟨fragment, middle⟩ := x
    obtain ⟨fragment', middle'⟩ := x'
    obtain ⟨htext, rfl⟩ := hx
    exact (ih middle).bind fun y y' hy => .ok ⟨.cons htext hy.1, hy.2⟩

theorem sameText_whereClause (lead : String) {fragments fragments' : List (Fragment Slot)}
    (h : List.Forall₂ Fragment.SameText fragments fragments') :
    (whereClause lead fragments).SameText (whereClause lead fragments') := by
  cases h with
  | nil => exact .refl _
  | cons hfirst hrest =>
    exact (Fragment.SameText.refl (.ofText lead)).append (.join " AND " (.cons hfirst hrest))

theorem Page.SameShape.render {page page' : Page} (h : page.SameShape page') (binds : Binds) :
    Alike SameText (page.render binds) (page'.render binds) := by
  obtain ⟨limit, offset⟩ := page
  obtain ⟨limit', offset'⟩ := page'
  obtain ⟨hlimit, hoffset⟩ := h
  have hpage : ∀ v u v' u' : Value, Alike SameText
      (binds.next "param" >>= fun x => x.2.next "param" >>= fun y => .ok
        ((⟨"\n LIMIT ? OFFSET ?", [.named x.1 v, .named y.1 u]⟩ : Fragment Slot), y.2))
      (binds.next "param" >>= fun x => x.2.next "param" >>= fun y => .ok
        ((⟨"\n LIMIT ? OFFSET ?", [.named x.1 v', .named y.1 u']⟩ : Fragment Slot), y.2)) := by
    intro v u v' u'
    apply Alike.after
    intro x
    apply Alike.after
    intro y
    exact .ok ⟨⟨rfl, rfl⟩, rfl⟩
  cases limit <;> cases limit' <;> cases offset <;> cases offset' <;> simp at hlimit hoffset
  · exact .ok ⟨.refl _, rfl⟩
  · exact hpage _ _ _ _
  · exact hpage _ _ _ _
  · exact hpage _ _ _ _

theorem alike_rowClauses {predicates predicates' : List Predicate} {page page' : Page}
    (hpredicates : List.Forall₂ Predicate.SameShape predicates predicates')
    (hpage : page.SameShape page') (binds : Binds) (orders : List Order) :
    Alike SameText (rowClauses binds predicates orders page)
      (rowClauses binds predicates' orders page') := by
  apply (alike_renderPredicates hpredicates binds).bind
  intro x x' hx
  obtain ⟨fragments, middle⟩ := x
  obtain ⟨fragments', middle'⟩ := x'
  obtain ⟨htexts, rfl⟩ := hx
  apply Alike.after (orderClause orders)
  intro order
  refine (hpage.render middle).bind fun y y' hy => .ok ⟨?_, hy.2⟩
  exact ((sameText_whereClause " \nWHERE " htexts).append (.refl _)).append hy.1

theorem Selection.SameShape.render {s s' : Selection} (h : s.SameShape s') (binds : Binds) :
    Alike SameText (s.render binds) (s'.render binds) := by
  rw [Selection.render_eq, Selection.render_eq, h.projection, h.table, h.order]
  apply Alike.after s'.projection.render
  intro columns
  exact (alike_rowClauses h.predicates h.page binds s'.order).map fun x x' hx =>
    ⟨(Fragment.SameText.refl _).append hx.1, hx.2⟩

theorem Scope.SameShape.render {scope scope' : Scope} (h : scope.SameShape scope')
    (binds : Binds) :
    Alike Fragment.SameText (scope.render binds) (scope'.render binds) := by
  cases h with
  | all => exact .ok (.refl _)
  | satisfying hpredicates =>
    exact (alike_renderPredicates hpredicates binds).bind fun x x' hx =>
      .ok (sameText_whereClause " WHERE " hx.1)
  | chosen hrows =>
    exact (hrows.render binds).bind fun x x' hx =>
      .ok (((Fragment.SameText.refl _).append hx.1).append (.refl _))

/-- Checks inspect rows only, and either both or none of the statements have rows. -/
theorem Predicate.SameShape.check {p p' : Predicate} (h : p.SameShape p') :
    p.check = p'.check := by
  cases h with
  | same p => rfl
  | compare column relation v v' => rfl
  | member column positive hitems =>
    obtain ⟨hrows, hrows'⟩ := rowsOf?_of_sameScalar hitems
    simp only [Predicate.check, hrows, hrows']

theorem Predicate.SameShape.isMember {p p' : Predicate} (h : p.SameShape p') :
    p.isMember = p'.isMember := by
  cases h <;> rfl

theorem check_all_eq {predicates predicates' : List Predicate}
    (h : List.Forall₂ Predicate.SameShape predicates predicates') :
    predicates.forM Predicate.check = predicates'.forM Predicate.check := by
  induction h with
  | nil => rfl
  | @cons p p' rest rest' hfirst _ ih =>
    change (p.check >>= fun _ => rest.forM Predicate.check) =
      (p'.check >>= fun _ => rest'.forM Predicate.check)
    rw [hfirst.check, ih]

theorem any_isMember_eq {predicates predicates' : List Predicate}
    (h : List.Forall₂ Predicate.SameShape predicates predicates') :
    predicates.any Predicate.isMember = predicates'.any Predicate.isMember := by
  induction h with
  | nil => rfl
  | cons hfirst _ ih => rw [List.any_cons, List.any_cons, hfirst.isMember, ih]

theorem Scope.SameShape.predicates {scope scope' : Scope} (h : scope.SameShape scope') :
    List.Forall₂ Predicate.SameShape scope.predicates scope'.predicates := by
  cases h with
  | all => exact .nil
  | satisfying hpredicates => exact hpredicates
  | chosen hrows => exact hrows.predicates

namespace Statement.SameShape

theorem predicates {s s' : Statement} (h : s.SameShape s') :
    List.Forall₂ Predicate.SameShape s.predicates s'.predicates := by
  cases h with
  | select hselection => exact hselection.predicates
  | insert table columns hrows => exact .nil
  | insertRow table columns hrow => exact .nil
  | update table hkeys hscope => exact hscope.predicates
  | delete table hscope => exact hscope.predicates

theorem keptName {s s' : Statement} (h : s.SameShape s') : s.keptName = s'.keptName := by
  funext name
  unfold Statement.keptName
  rw [any_isMember_eq h.predicates]

end Statement.SameShape

theorem sameText_insertText (table : String) (columns : List String)
    {rows rows' : List (List Slot)}
    (h : List.Forall₂ (fun row row' => row.map Slot.name = row'.map Slot.name) rows rows') :
    (insertText table columns rows).SameText (insertText table columns rows') := by
  unfold insertText
  split
  · exact .refl _
  · refine (Fragment.SameText.refl _).append (.join ", " ?_)
    rw [List.forall₂_map_left_iff, List.forall₂_map_right_iff]
    exact h.imp fun _ _ hrow => .group hrow

/-- The names of the rows of an insertion depend on their columns and positions only. -/
theorem names_rows (columns : List String) {rows rows' : List (List Value)}
    (h : List.Forall₂ (fun row row' => row.length = row'.length) rows rows') (k : ℕ) :
    List.Forall₂ (fun row row' => row.map Slot.name = row'.map Slot.name)
      ((rows.zipIdx k).map fun (row, i) => rowSlots columns ("_m" ++ Decimal.natText i) row)
      ((rows'.zipIdx k).map fun (row, i) => rowSlots columns ("_m" ++ Decimal.natText i) row) := by
  induction h generalizing k with
  | nil => exact .nil
  | cons hrow _ ih => exact .cons (by rw [names_rowSlots, names_rowSlots, hrow]) (ih (k + 1))

theorem sameText_assignments {assignments assignments' : Fields Value}
    (h : assignments.keys = assignments'.keys) :
    (Fragment.join ", " (assignments.map assignment)).SameText
      (Fragment.join ", " (assignments'.map assignment)) := by
  refine .join ", " ?_
  rw [List.forall₂_map_left_iff, List.forall₂_map_right_iff]
  have hkeys : List.Forall₂ (fun field field' => field.1 = field'.1) assignments assignments' := by
    rwa [← List.forall₂_eq_eq_eq, Fields.keys, Fields.keys, List.forall₂_map_left_iff,
      List.forall₂_map_right_iff] at h
  refine hkeys.imp fun field field' hname => ?_
  unfold assignment
  rw [hname]
  exact (Fragment.SameText.refl _).append (.placeholder rfl)

theorem Statement.SameShape.draft {s s' : Statement} (h : s.SameShape s') :
    Alike Fragment.SameText s.draft s'.draft := by
  cases h with
  | select hselection => exact (hselection.render ⟨[], []⟩).bind fun x x' hx => .ok hx.1
  | insert table columns hrows =>
    exact Alike.after _ fun _ =>
      .ok (sameText_insertText table columns (names_rows columns hrows 0))
  | insertRow table columns hrow =>
    refine Alike.after _ fun _ => .ok (sameText_insertText table columns (.cons ?_ .nil))
    rw [names_rowSlots, names_rowSlots, hrow]
  | @update table assignments assignments' scope scope' hkeys hscope =>
    have hscopes : Alike Fragment.SameText
        (scope.render ⟨assignments.keys, []⟩) (scope'.render ⟨assignments'.keys, []⟩) := by
      rw [← hkeys]
      exact hscope.render ⟨assignments.keys, []⟩
    simp only [Statement.draft]
    rw [← hkeys] at hscopes ⊢
    exact Alike.after _ fun _ => hscopes.bind fun f f' hf =>
      .ok (((Fragment.SameText.refl _).append (sameText_assignments hkeys)).append hf)
  | delete table hscope =>
    exact (hscope.render ⟨[], []⟩).bind fun f f' hf => .ok ((Fragment.SameText.refl _).append hf)

/-- Statements that differ in values only have the same text, or fail alike. -/
theorem Statement.SameShape.render {s s' : Statement} (h : s.SameShape s') :
    Alike (fun f f' => f.text = f'.text) s.render s'.render := by
  rw [Statement.render_eq, Statement.render_eq, check_all_eq h.predicates, h.keptName]
  apply h.draft.bind
  intro f f' hf
  apply Alike.after
  intro _
  rw [hf.names]
  exact (Alike.refl (fun _ => rfl) _).map fun _ _ _ => hf.text

end Sql

end SqlBridge
