import Mathlib.Data.List.Forall2
import SqlBridge.Console.Table
import SqlBridge.Proofs.Outcome

/-!
Tables with rendered markup. The drawing of a table depends on the texts shown for its markup only,
and it fails only if some markup cannot be read.
-/

namespace SqlBridge.Console

structure ShownColumn where
  head : List Char
  cells : List (List Char)
  layout : Layout

/-- A table with the texts shown for its markup; an empty title is left out. -/
structure ShownTable where
  title : Option (List Char)
  frame : Frame
  columns : List ShownColumn
  caption : Option (List Char)

/-- The width of a text, at most the available one. -/
def textWidth (available : ℕ) (text : List Char) : ℕ :=
  if available ≤ padding then available else min (naturalWidth text + padding) available

def ShownColumn.width (available : ℕ) (c : ShownColumn) : ℕ :=
  if available = 0 then 0 else ((c.head :: c.cells).map (textWidth available)).foldl max 0

/-- The widths of the columns in the room of a screen. -/
def shownWidths (room : ℕ) (columns : List ShownColumn) : List ℕ :=
  let widths := (columns.map (ShownColumn.width room)).map fun w => if w = 0 then 1 else w
  if total widths ≤ room then widths
  else
    let shrunk := shrinkAll room
      (shrinkBroken room (columns.map (·.layout.breaks)) (total widths) widths)
    (shrunk.zip columns).map fun (w, c) => c.width w

def textLines (width : ℕ) (layout : Layout) (text : List Char) : List (List Char) :=
  if width ≤ padding then []
  else (paragraph (width - padding) layout text).map fun line => ' ' :: line ++ [' ']

/-- The texts of each row, by columns. -/
def shownRows (columns : List ShownColumn) : List (List (List Char)) :=
  let height := (columns.map (·.cells.length)).foldl max 0
  (List.range height).map fun i => columns.map fun c => c.cells.getD i []

namespace ShownTable

def bodyLines (t : ShownTable) (widths : List ℕ) : List (List Char) :=
  let row (atBottom : Bool) (texts : List (List Char)) :=
    rowLines t.frame.side widths atBottom
      (((widths.zip t.columns).zip texts).map fun ((w, c), text) => textLines w c.layout text)
  [t.frame.top.draw widths] ++ row true (t.columns.map (·.head)) ++ [t.frame.head.draw widths] ++
    ((shownRows t.columns).map (row false)).flatten ++ [t.frame.bottom.draw widths]

def annotation (width : ℕ) : Option (List Char) → List (List Char)
  | some text => paragraph width ⟨.center, true, true⟩ text
  | none => []

def lines (screen : ℕ) (t : ShownTable) : List (List Char) :=
  if t.columns.isEmpty then [[]]
  else
    let edges := frameWidth t.columns.length
    let widths := shownWidths (screen - edges) t.columns
    let width := total widths + edges
    annotation width t.title ++ t.bodyLines widths ++ annotation width t.caption

def print (screen : ℕ) (t : ShownTable) : String :=
  if screen = 0 then "" else printed screen (t.lines screen)

end ShownTable

/-- The text shown for markup. -/
def Shows (text : String) (shown : List Char) : Prop := renderMarkup text.toList = .ok shown

structure Column.ShownAs (c : Column) (s : ShownColumn) : Prop where
  head : Shows c.head s.head
  cells : List.Forall₂ Shows c.cells s.cells
  layout : c.layout = s.layout

structure Table.ShownAs (t : Table) (s : ShownTable) : Prop where
  title : if t.title.isEmpty then s.title = none
    else ∃ text, s.title = some text ∧ Shows t.title text
  frame : t.frame = s.frame
  columns : List.Forall₂ Column.ShownAs t.columns s.columns
  caption : Option.Rel Shows t.caption s.caption

theorem forall₂_zip_zip {α β γ δ : Type} {R : α → β → Prop} {S : γ → δ → Prop} {as : List α}
    {bs : List β} {cs : List γ} {ds : List δ} (h : List.Forall₂ R as bs)
    (h' : List.Forall₂ S cs ds) :
    List.Forall₂ (fun p q => R p.1 q.1 ∧ S p.2 q.2) (as.zip cs) (bs.zip ds) := by
  induction h generalizing cs ds with
  | nil => exact .nil
  | cons hab _ ih =>
    cases h' with
    | nil => exact .nil
    | cons hcd hrest => exact .cons ⟨hab, hcd⟩ (ih hrest)

section Texts

variable {text : String} {shown : List Char}

theorem measureCell_eq (h : Shows text shown) (available : ℕ) :
    measureCell available text = .ok (textWidth available shown) := by
  unfold measureCell textWidth
  split_ifs
  · rfl
  · rw [h]
    rfl

theorem cellLines_eq (h : Shows text shown) (width : ℕ) (layout : Layout) :
    cellLines width layout text = .ok (textLines width layout shown) := by
  unfold cellLines textLines
  split_ifs
  · rfl
  · rw [h]
    rfl

theorem annotationLines_eq (h : Shows text shown) (width : ℕ) :
    annotationLines width text = .ok (ShownTable.annotation width (some shown)) := by
  unfold annotationLines
  rw [h]
  rfl

end Texts

theorem measureColumn_eq {c : Column} {s : ShownColumn} (h : c.ShownAs s) (available : ℕ) :
    measureColumn available c = .ok (s.width available) := by
  have hcells : (c.head :: c.cells).mapM (measureCell available) =
      .ok ((s.head :: s.cells).map (textWidth available)) :=
    Outcome.mapM_eq_ok_of_forall₂ (.cons h.head h.cells) fun _ _ htext => measureCell_eq htext _
  unfold measureColumn ShownColumn.width
  split_ifs
  · rfl
  · rw [hcells]
    rfl

section Columns

variable {columns : List Column} {shown : List ShownColumn}

theorem map_eq_of_shownAs {α : Type} {f : Column → α} {g : ShownColumn → α}
    (h : List.Forall₂ Column.ShownAs columns shown) (hfg : ∀ c s, c.ShownAs s → f c = g s) :
    columns.map f = shown.map g := by
  induction h with
  | nil => rfl
  | cons hc _ ih => rw [List.map_cons, List.map_cons, hfg _ _ hc, ih]

/-- Columns zipped with widths are shown with the same widths. -/
theorem zip_shownAs (h : List.Forall₂ Column.ShownAs columns shown) (widths : List ℕ) :
    List.Forall₂ (fun p q => p.1 = q.1 ∧ Column.ShownAs p.2 q.2) (widths.zip columns)
      (widths.zip shown) := forall₂_zip_zip (List.forall₂_refl widths) h

theorem columnWidths_eq (h : List.Forall₂ Column.ShownAs columns shown) (room : ℕ) :
    columnWidths room columns = .ok (shownWidths room shown) := by
  have hasked : columns.mapM (measureColumn room) = .ok (shown.map (ShownColumn.width room)) :=
    Outcome.mapM_eq_ok_of_forall₂ h fun _ _ hc => measureColumn_eq hc room
  have hbreaks : columns.map (·.layout.breaks) = shown.map (·.layout.breaks) :=
    map_eq_of_shownAs h fun _ _ hc => congrArg Layout.breaks hc.layout
  have hshrunk : ∀ widths : List ℕ,
      (widths.zip columns).mapM (fun p => measureColumn p.1 p.2) =
        .ok ((widths.zip shown).map fun p => p.2.width p.1) := fun widths =>
    Outcome.mapM_eq_ok_of_forall₂ (zip_shownAs h widths) fun p q hpair => by
      rw [hpair.1]
      exact measureColumn_eq hpair.2 q.1
  unfold columnWidths shownWidths
  rw [hasked, Outcome.ok_bind]
  dsimp only
  split_ifs
  · rfl
  · rw [hbreaks]
    exact hshrunk _

/-- The cells of a row have the lines of the texts shown. -/
theorem mapM_cellLines_eq (h : List.Forall₂ Column.ShownAs columns shown) (widths : List ℕ)
    {cells : List String} {texts : List (List Char)} (hcells : List.Forall₂ Shows cells texts) :
    ((widths.zip columns).zip cells).mapM (fun ((w, c), cell) => cellLines w c.layout cell) =
      .ok (((widths.zip shown).zip texts).map fun ((w, c), text) => textLines w c.layout text) := by
  refine Outcome.mapM_eq_ok_of_forall₂ (forall₂_zip_zip (zip_shownAs h widths) hcells) ?_
  intro p q hpair
  obtain ⟨⟨hw, hc⟩, htext⟩ := hpair
  dsimp only
  rw [cellLines_eq htext, hw, hc.layout]

theorem shows_getD {cells : List String} {texts : List (List Char)}
    (h : List.Forall₂ Shows cells texts) (i : ℕ) : Shows (cells.getD i "") (texts.getD i []) := by
  induction h generalizing i with
  | nil => exact rfl
  | cons hcell _ ih =>
    cases i with
    | zero => exact hcell
    | succ i => exact ih i

theorem rowsOf_shown (h : List.Forall₂ Column.ShownAs columns shown) :
    List.Forall₂ (List.Forall₂ Shows) (rowsOf columns) (shownRows shown) := by
  have hheights : columns.map (·.cells.length) = shown.map (·.cells.length) :=
    map_eq_of_shownAs h fun _ _ hc => hc.cells.length_eq
  unfold rowsOf shownRows
  rw [hheights]
  refine List.forall₂_map_left_iff.mpr (List.forall₂_map_right_iff.mpr ?_)
  refine List.forall₂_same.mpr fun i _ => ?_
  refine List.forall₂_map_left_iff.mpr (List.forall₂_map_right_iff.mpr ?_)
  exact h.imp fun c s hc => shows_getD hc.cells i

end Columns

variable {t : Table} {s : ShownTable}

theorem bodyLines_eq (h : t.ShownAs s) (widths : List ℕ) :
    bodyLines t.frame t.columns widths = .ok (s.bodyLines widths) := by
  have hheads : List.Forall₂ Shows (t.columns.map (·.head)) (s.columns.map (·.head)) :=
    List.forall₂_map_left_iff.mpr (List.forall₂_map_right_iff.mpr
      (h.columns.imp fun c s hc => hc.head))
  unfold bodyLines
  dsimp only
  rw [mapM_cellLines_eq h.columns widths hheads]
  rw [Outcome.mapM_eq_ok_of_forall₂ (rowsOf_shown h.columns) fun cells texts hcells => by
    rw [mapM_cellLines_eq h.columns widths hcells]
    rfl]
  rw [h.frame]
  rfl

/-- The lines of a title; an empty title has none. -/
def titleLines (width : ℕ) (title : String) : Outcome (List (List Char)) :=
  if title.isEmpty then .ok [] else annotationLines width title

def captionLines (width : ℕ) : Option String → Outcome (List (List Char))
  | some text => annotationLines width text
  | none => .ok []

/-- The lines of a table with columns are those of its title, its rows and its caption. -/
theorem Table.lines_of_columns (h : t.columns.isEmpty = false) (screen : ℕ) :
    t.lines screen =
      columnWidths (screen - frameWidth t.columns.length) t.columns >>= fun widths =>
        titleLines (total widths + frameWidth t.columns.length) t.title >>= fun title =>
          bodyLines t.frame t.columns widths >>= fun body =>
            captionLines (total widths + frameWidth t.columns.length) t.caption >>= fun caption =>
              .ok (title ++ body ++ caption) := by
  unfold Table.lines titleLines
  rw [h, if_neg (by decide)]
  dsimp only
  cases t.caption <;> split_ifs <;> rfl

theorem Table.ShownAs.titleLines_eq (h : t.ShownAs s) (width : ℕ) :
    titleLines width t.title = .ok (ShownTable.annotation width s.title) := by
  have hshown := h.title
  unfold titleLines
  split_ifs at hshown ⊢
  · rw [hshown]
    rfl
  · obtain ⟨text, htext, hshows⟩ := hshown
    rw [htext, annotationLines_eq hshows]

theorem Table.ShownAs.captionLines_eq (h : t.ShownAs s) (width : ℕ) :
    captionLines width t.caption = .ok (ShownTable.annotation width s.caption) := by
  have hshown := h.caption
  generalize t.caption = caption, s.caption = text at hshown ⊢
  cases hshown with
  | none => rfl
  | some hshows => exact annotationLines_eq hshows width

/-- A table has the lines of the texts shown for it. -/
theorem Table.ShownAs.lines_eq (h : t.ShownAs s) (screen : ℕ) :
    t.lines screen = .ok (s.lines screen) := by
  have hlength := h.columns.length_eq
  cases hcolumns : t.columns.isEmpty with
  | true =>
    have hempty : s.columns.isEmpty = true := by
      rw [List.isEmpty_iff_length_eq_zero] at hcolumns ⊢
      rw [← hlength, hcolumns]
    unfold Table.lines ShownTable.lines
    rw [if_pos hcolumns, if_pos hempty]
    rfl
  | false =>
    have hsome : ¬s.columns.isEmpty = true := by
      rw [← Bool.not_eq_true, List.isEmpty_iff_length_eq_zero] at hcolumns
      rwa [List.isEmpty_iff_length_eq_zero, ← hlength]
    rw [Table.lines_of_columns hcolumns, columnWidths_eq h.columns, Outcome.ok_bind,
      h.titleLines_eq, Outcome.ok_bind, bodyLines_eq h, Outcome.ok_bind, h.captionLines_eq,
      Outcome.ok_bind, hlength, ShownTable.lines, if_neg hsome]

theorem Table.ShownAs.print_eq (h : t.ShownAs s) (screen : ℕ) :
    t.print screen = .ok (s.print screen) := by
  unfold Table.print ShownTable.print
  split_ifs
  · rfl
  · rw [h.lines_eq]
    rfl

/-- The texts of a table that are markup. -/
def Table.texts (t : Table) : List String :=
  t.title :: t.columns.flatMap (fun c => c.head :: c.cells) ++ t.caption.toList

theorem exists_forall₂ {α β : Type} {R : α → β → Prop} {as : List α} (h : ∀ a ∈ as, ∃ b, R a b) :
    ∃ bs, List.Forall₂ R as bs := by
  induction as with
  | nil => exact ⟨[], .nil⟩
  | cons a rest ih =>
    obtain ⟨b, hb⟩ := h a List.mem_cons_self
    obtain ⟨bs, hbs⟩ := ih fun c hc => h c (List.mem_cons_of_mem a hc)
    exact ⟨b :: bs, .cons hb hbs⟩

/-- If every text of a table can be rendered, the table can be. -/
theorem Table.exists_shownAs (h : ∀ text ∈ t.texts, ∃ shown, Shows text shown) :
    ∃ s, t.ShownAs s := by
  have hcolumn : ∀ c ∈ t.columns, ∃ s, Column.ShownAs c s := by
    intro c hc
    have hmem : ∀ text ∈ c.head :: c.cells, text ∈ t.texts := fun text htext =>
      List.mem_append_left _ (List.mem_cons_of_mem _ (List.mem_flatMap.mpr ⟨c, hc, htext⟩))
    obtain ⟨head, hhead⟩ := h c.head (hmem _ List.mem_cons_self)
    obtain ⟨cells, hcells⟩ := exists_forall₂ fun cell hcell =>
      h cell (hmem _ (List.mem_cons_of_mem _ hcell))
    exact ⟨⟨head, cells, c.layout⟩, hhead, hcells, rfl⟩
  obtain ⟨columns, hcolumns⟩ := exists_forall₂ hcolumn
  obtain ⟨title, htitle⟩ := h t.title List.mem_cons_self
  obtain ⟨caption, hcaption⟩ : ∃ caption, Option.Rel Shows t.caption caption := by
    cases hsome : t.caption with
    | none => exact ⟨none, .none⟩
    | some text =>
      obtain ⟨shown, hshown⟩ := h text (List.mem_append_right _ (by simp [hsome]))
      exact ⟨some shown, .some hshown⟩
  refine ⟨⟨if t.title.isEmpty then none else some title, t.frame, columns, caption⟩, ?_, rfl,
    hcolumns, hcaption⟩
  dsimp only
  split_ifs
  · rfl
  · exact ⟨title, rfl, htitle⟩

section Failing

open Outcome

theorem failsOnlyBy_renderTokens (opened : List OpenTag) (tokens : List Token) :
    FailsOnlyBy .markup (renderTokens opened tokens) := by
  induction tokens generalizing opened with
  | nil => exact .ok []
  | cons token rest ih =>
    cases token with
    | text cs => exact (ih opened).bind fun shown => .ok _
    | tag name parameter =>
      rw [renderTokens.eq_def]
      split
      · next heq => cases heq
      · next heq => cases heq
      · next heq =>
        cases heq
        split
        · split_ifs
          · exact ih _
          · exact .error .markup
        · exact .error .markup
      · next heq =>
        cases heq
        exact ih _

theorem failsOnlyBy_renderMarkup (cs : List Char) : FailsOnlyBy .markup (renderMarkup cs) := by
  unfold renderMarkup
  split_ifs
  · exact failsOnlyBy_renderTokens _ _
  · exact .ok _

theorem failsOnlyBy_measureColumn (available : ℕ) (c : Column) :
    FailsOnlyBy .markup (measureColumn available c) := by
  have hcell : ∀ cell, FailsOnlyBy .markup (measureCell available cell) := by
    intro cell
    unfold measureCell
    split_ifs
    · exact .ok _
    · exact (failsOnlyBy_renderMarkup _).bind fun _ => .ok _
  unfold measureColumn
  split_ifs
  · exact .ok _
  · exact (FailsOnlyBy.mapM _ hcell).bind fun _ => .ok _

theorem failsOnlyBy_columnWidths (room : ℕ) (columns : List Column) :
    FailsOnlyBy .markup (columnWidths room columns) := by
  refine (FailsOnlyBy.mapM _ (failsOnlyBy_measureColumn room)).bind fun asked => ?_
  dsimp only
  split_ifs
  · exact .ok _
  · exact .mapM _ fun p => failsOnlyBy_measureColumn p.1 p.2

theorem failsOnlyBy_bodyLines (frame : Frame) (columns : List Column) (widths : List ℕ) :
    FailsOnlyBy .markup (bodyLines frame columns widths) := by
  have hcell : ∀ width layout cell, FailsOnlyBy .markup (cellLines width layout cell) := by
    intro width layout cell
    unfold cellLines
    split_ifs
    · exact .ok _
    · exact (failsOnlyBy_renderMarkup _).bind fun _ => .ok _
  have hrow : ∀ (atBottom : Bool) (cells : List String), FailsOnlyBy .markup
      (((widths.zip columns).zip cells).mapM (fun p => cellLines p.1.1 p.1.2.layout p.2) >>=
        fun lines => (.ok (rowLines frame.side widths atBottom lines) : Outcome _)) :=
    fun atBottom cells => (FailsOnlyBy.mapM ((widths.zip columns).zip cells)
      fun p => hcell p.1.1 p.1.2.layout p.2).bind fun _ => .ok _
  exact (hrow true _).bind fun _ => (FailsOnlyBy.mapM _ (hrow false)).bind fun _ => .ok _

theorem failsOnlyBy_annotationLines (width : ℕ) (text : String) :
    FailsOnlyBy .markup (annotationLines width text) :=
  (failsOnlyBy_renderMarkup _).bind fun _ => .ok _

/-- The drawing of a table fails only with an error of markup. -/
theorem failsOnlyBy_print (screen : ℕ) (t : Table) : FailsOnlyBy .markup (t.print screen) := by
  have htitle : ∀ width, FailsOnlyBy .markup (titleLines width t.title) := by
    intro width
    unfold titleLines
    split_ifs
    · exact .ok _
    · exact failsOnlyBy_annotationLines _ _
  have hcaption : ∀ width, FailsOnlyBy .markup (captionLines width t.caption) := by
    intro width
    cases t.caption with
    | none => exact .ok _
    | some text => exact failsOnlyBy_annotationLines _ _
  have hlines : FailsOnlyBy .markup (t.lines screen) := by
    cases hcolumns : t.columns.isEmpty with
    | true =>
      unfold Table.lines
      rw [if_pos hcolumns]
      exact .ok _
    | false =>
      rw [Table.lines_of_columns hcolumns]
      exact (failsOnlyBy_columnWidths _ _).bind fun _ => (htitle _).bind fun _ =>
        (failsOnlyBy_bodyLines _ _ _).bind fun _ => (hcaption _).bind fun _ => .ok _
  unfold Table.print
  split_ifs
  · exact .ok _
  · exact hlines.bind fun _ => .ok _

/-- A table that cannot be drawn has a text whose markup cannot be read. -/
theorem Table.exists_text_of_print_error {f : Failure} {screen : ℕ}
    (h : t.print screen = .error f) :
    f = .markup ∧ ∃ text ∈ t.texts, renderMarkup text.toList = .error .markup := by
  refine ⟨failsOnlyBy_print screen t f h, ?_⟩
  by_contra hnone
  have hshown : ∀ text ∈ t.texts, ∃ shown, Shows text shown := by
    intro text htext
    cases hrender : renderMarkup text.toList with
    | ok shown => exact ⟨shown, hrender⟩
    | error g =>
      have hmarkup := failsOnlyBy_renderMarkup _ g hrender
      exact absurd ⟨text, htext, hmarkup ▸ hrender⟩ hnone
  obtain ⟨s, hs⟩ := Table.exists_shownAs hshown
  rw [hs.print_eq] at h
  cases h

end Failing

end SqlBridge.Console
