import SqlBridge.Proofs.Console.Literal
import SqlBridge.Proofs.Console.Shown
import SqlBridge.Proofs.Document.Number
import SqlBridge.Proofs.Fields
import SqlBridge.Report

/-!
The texts shown by reports. Titles, column names and values are passed to the screen as markup,
although only the word for null is meant as markup. If these texts hold no markup, every report is
drawn with exactly these texts.
-/

namespace SqlBridge.Report

open Console Outcome

/-- The text of a value in a report. -/
def valueText : Value → String
  | .null => "NULL"
  | v => if v.isContainer then Document.compact v else v.shown

/-- The texts of a report of rows: its title, the column names and the values. -/
def rowTexts (title : String) (rows : List (Fields Value)) : List String :=
  title :: rows.flatMap fun row => row.flatMap fun field => [field.1, valueText field.2]

def figureTexts (metadata : Fields Value) : List String :=
  (shownFigures metadata).map fun field => valueText field.2

/-- The column of a name with the texts of its values. -/
def plainColumn (rows : List (Fields Value)) (name : String) : ShownColumn :=
  ⟨name.toList, rows.map fun row => (valueText (Value.field row name)).toList,
    ⟨.left, true, true⟩⟩

def plainRows (title : String) (rows : List (Fields Value)) : ShownTable :=
  ⟨if title.isEmpty then none else some title.toList, .rounded,
    (columnNames rows).map (plainColumn rows),
    some (Decimal.natText rows.length ++ " row(s)").toList⟩

def plainFigures (shown : Fields Value) : ShownTable :=
  ⟨some "Meta".toList, .simple,
    [⟨"Key".toList, shown.map fun field => field.1.toList, ⟨.left, false, false⟩⟩,
     ⟨"Value".toList, shown.map fun field => (valueText field.2).toList, ⟨.right, true, false⟩⟩],
    none⟩

/-- The report of rows in which every text is shown unchanged. -/
def plainRowReport (screen : ℕ) (title : String) (rows : List (Fields Value)) : String :=
  if rows.isEmpty then printed screen (paragraph screen ⟨.natural, true, true⟩ "No rows.".toList)
  else (plainRows title rows).print screen

def plainFigureReport (screen : ℕ) (metadata : Fields Value) : String :=
  if (shownFigures metadata).isEmpty then ""
  else (plainFigures (shownFigures metadata)).print screen

theorem shows_null : Shows (cellText .null) "NULL".toList :=
  renderMarkup_of_enclosed (by decide)
    (show tokensFrom 0 [] "[dim]NULL[/dim]".toList =
      [.tag "dim".toList none, .text "NULL".toList, .tag "/dim".toList none] from rfl)
    (by decide) (by decide) (isLiteral_of_all_isPlain (by decide))

theorem shows_noRows : Shows "[yellow]No rows.[/yellow]" "No rows.".toList :=
  renderMarkup_of_enclosed (by decide)
    (show tokensFrom 0 [] "[yellow]No rows.[/yellow]".toList =
      [.tag "yellow".toList none, .text "No rows.".toList, .tag "/yellow".toList none] from rfl)
    (by decide) (by decide) (isLiteral_of_all_isPlain (by decide))

theorem cellText_eq_valueText {v : Value} (h : v ≠ .null) : cellText v = valueText v := by
  cases v with
  | null => exact absurd rfl h
  | _ => rfl

/-- A cell shows the text of its value if that text holds no markup. -/
theorem shows_cellText {v : Value} (h : isLiteral (valueText v).toList = true) :
    Shows (cellText v) (valueText v).toList := by
  by_cases hnull : v = .null
  · subst hnull
    exact shows_null
  · rw [cellText_eq_valueText hnull]
    exact renderMarkup_of_isLiteral h

/-- Without colons the converse holds too. -/
theorem shows_cellText_iff {v : Value} (h : ':' ∉ (valueText v).toList) :
    Shows (cellText v) (valueText v).toList ↔ isLiteral (valueText v).toList = true := by
  refine ⟨fun hshown => ?_, shows_cellText⟩
  by_cases hnull : v = .null
  · subst hnull
    rw [valueText]
    exact isLiteral_of_all_isPlain (by decide)
  · rw [cellText_eq_valueText hnull] at hshown
    exact (renderMarkup_eq_self_iff h).mp hshown

theorem shows_of_all_isPlain {text : String} (h : text.toList.all isPlain = true) :
    Shows text text.toList :=
  renderMarkup_of_isLiteral (isLiteral_of_all_isPlain h)

theorem isPlain_of_isAsciiDigit {c : Char} (h : Text.isAsciiDigit c = true) : isPlain c = true := by
  obtain ⟨hfirst, hlast⟩ : 48 ≤ c.toNat ∧ c.toNat ≤ 57 := by
    simpa [Text.isAsciiDigit, Char.le_def, UInt32.le_iff_toNat_le] using h
  have hbracket : c ≠ '[' := by
    rintro rfl
    exact absurd hlast (by decide)
  have hcolon : c ≠ ':' := by
    rintro rfl
    exact absurd hlast (by decide)
  simp [isPlain, Text.inRanges, hbracket, hcolon]
  omega

theorem shows_caption (rows : List (Fields Value)) :
    Shows (Decimal.natText rows.length ++ " row(s)")
      (Decimal.natText rows.length ++ " row(s)").toList := by
  refine shows_of_all_isPlain ?_
  rw [String.toList_append, Decimal.natText, String.toList_ofList, List.all_append,
    Bool.and_eq_true]
  exact ⟨List.all_eq_true.mpr fun c hc =>
    isPlain_of_isAsciiDigit (Document.isAsciiDigit_of_mem_toDigits c hc), by decide⟩

/-- The report without rows has only the markup of its message. -/
theorem printRows_of_isEmpty {rows : List (Fields Value)} (h : rows.isEmpty = true) (screen : ℕ)
    (title : String) : printRows screen title rows = .ok (plainRowReport screen title rows) := by
  unfold printRows plainRowReport printMessage
  rw [if_pos h, if_pos h, shows_noRows]
  rfl

theorem mem_columnNames {rows : List (Fields Value)} {name : String}
    (h : name ∈ columnNames rows) : ∃ row ∈ rows, ∃ field ∈ row, field.1 = name := by
  have hfold : ∀ names : List String,
      name ∈ rows.foldl
        (fun names row => names ++ row.keys.filter fun name => !names.contains name) names →
      name ∈ names ∨ ∃ row ∈ rows, ∃ field ∈ row, field.1 = name := by
    clear h
    induction rows with
    | nil => exact fun names h => .inl h
    | cons row rest ih =>
      intro names h
      rcases ih _ h with hmem | ⟨other, hother, hfield⟩
      · rcases List.mem_append.mp hmem with hold | hnew
        · exact .inl hold
        · obtain ⟨field, hfield, hname⟩ := List.mem_map.mp (List.mem_filter.mp hnew).1
          exact .inr ⟨row, List.mem_cons_self, field, hfield, hname⟩
      · exact .inr ⟨other, List.mem_cons_of_mem row hother, hfield⟩
  exact (hfold [] h).resolve_left (by simp)

section Rows

variable {title : String} {rows : List (Fields Value)}

theorem mem_rowTexts {text : String} {row : Fields Value} {field : String × Value}
    (hrow : row ∈ rows) (hfield : field ∈ row) (h : text ∈ [field.1, valueText field.2]) :
    text ∈ rowTexts title rows :=
  List.mem_cons_of_mem _ (List.mem_flatMap.mpr ⟨row, hrow, List.mem_flatMap.mpr ⟨field, hfield, h⟩⟩)

theorem name_mem_rowTexts {name : String} (h : name ∈ columnNames rows) :
    name ∈ rowTexts title rows := by
  obtain ⟨row, hrow, field, hfield, rfl⟩ := mem_columnNames h
  exact mem_rowTexts hrow hfield List.mem_cons_self

/-- The value of a missing name is null. -/
theorem value_mem_rowTexts (title : String) {row : Fields Value} (hrow : row ∈ rows)
    (name : String) :
    Value.field row name = .null ∨ valueText (Value.field row name) ∈ rowTexts title rows := by
  rw [Value.field]
  cases hvalue : row.get? name with
  | none => exact .inl rfl
  | some v =>
    have hfield : (name, v) ∈ row := Fields.mem_of_get? hvalue
    exact .inr (mem_rowTexts hrow hfield (List.mem_cons_of_mem _ List.mem_cons_self))

theorem shownAs_rowTable (h : ∀ text ∈ rowTexts title rows, isLiteral text.toList = true) :
    (rowTable title rows).ShownAs (plainRows title rows) := by
  have hcolumns : List.Forall₂ Column.ShownAs ((columnNames rows).map (rowColumn rows))
      ((columnNames rows).map (plainColumn rows)) := by
    refine List.forall₂_map_left_iff.mpr (List.forall₂_map_right_iff.mpr ?_)
    refine List.forall₂_same.mpr fun name hname => ⟨?_, ?_, rfl⟩
    · exact renderMarkup_of_isLiteral (h name (name_mem_rowTexts hname))
    · refine List.forall₂_map_left_iff.mpr (List.forall₂_map_right_iff.mpr ?_)
      refine List.forall₂_same.mpr fun row hrow => ?_
      rcases value_mem_rowTexts title hrow name with hnull | hmem
      · rw [hnull]
        exact shows_null
      · exact shows_cellText (h _ hmem)
  refine ⟨?_, rfl, hcolumns, .some (shows_caption rows)⟩
  unfold rowTable plainRows
  dsimp only
  split_ifs
  · rfl
  · exact ⟨_, rfl, renderMarkup_of_isLiteral (h title List.mem_cons_self)⟩

/-- The texts of the table of rows are those of the report and constant ones. -/
theorem texts_rowTable {text : String} (h : text ∈ (rowTable title rows).texts) :
    text ∈ rowTexts title rows ∨ ∃ shown, Shows text shown := by
  rcases List.mem_append.mp h with hbody | hcaption
  · rcases List.mem_cons.mp hbody with rfl | hcolumns
    · exact .inl List.mem_cons_self
    · obtain ⟨column, hcolumn, htext⟩ := List.mem_flatMap.mp hcolumns
      obtain ⟨name, hname, rfl⟩ := List.mem_map.mp hcolumn
      rcases List.mem_cons.mp htext with rfl | hcell
      · exact .inl (name_mem_rowTexts hname)
      · obtain ⟨row, hrow, rfl⟩ := List.mem_map.mp hcell
        by_cases hnull : Value.field row name = .null
        · exact .inr ⟨_, hnull ▸ shows_null⟩
        · have hmem := (value_mem_rowTexts title hrow name).resolve_left hnull
          exact .inl (cellText_eq_valueText hnull ▸ hmem)
  · cases List.mem_singleton.mp hcaption
    exact .inr ⟨_, shows_caption rows⟩

/-- Rows whose texts hold no markup are drawn with these texts. -/
theorem printRows_of_isLiteral (h : ∀ text ∈ rowTexts title rows, isLiteral text.toList = true)
    (screen : ℕ) : printRows screen title rows = .ok (plainRowReport screen title rows) := by
  by_cases hempty : rows.isEmpty = true
  · exact printRows_of_isEmpty hempty screen title
  · unfold printRows plainRowReport
    rw [if_neg hempty, if_neg hempty, (shownAs_rowTable h).print_eq]

/-- A report of rows that fails has a text whose markup cannot be read. -/
theorem exists_text_of_printRows_error {f : Failure} {screen : ℕ}
    (h : printRows screen title rows = .error f) :
    f = .markup ∧ ∃ text ∈ rowTexts title rows, renderMarkup text.toList = .error .markup := by
  by_cases hempty : rows.isEmpty = true
  · rw [printRows_of_isEmpty hempty] at h
    cases h
  · unfold printRows at h
    rw [if_neg hempty] at h
    obtain ⟨hmarkup, text, htext, herror⟩ := Table.exists_text_of_print_error h
    rcases texts_rowTable htext with hmem | ⟨shown, hshown⟩
    · exact ⟨hmarkup, text, hmem, herror⟩
    · exact nomatch herror.symm.trans hshown

end Rows

section Figures

variable {metadata : Fields Value}

theorem shows_name {field : String × Value} (h : field ∈ shownFigures metadata) :
    Shows field.1 field.1.toList := by
  obtain ⟨name, hname, hfield⟩ := List.mem_filterMap.mp h
  obtain ⟨v, -, rfl⟩ := Option.map_eq_some_iff.mp hfield
  have hfigures : ∀ name ∈ figures, name.toList.all isPlain = true := by decide
  exact shows_of_all_isPlain (hfigures name hname)

theorem shownAs_figureTable (h : ∀ text ∈ figureTexts metadata, isLiteral text.toList = true) :
    (figureTable (shownFigures metadata)).ShownAs (plainFigures (shownFigures metadata)) := by
  have hkeys : List.Forall₂ Shows ((shownFigures metadata).map (·.1))
      ((shownFigures metadata).map fun field => field.1.toList) := by
    refine List.forall₂_map_left_iff.mpr (List.forall₂_map_right_iff.mpr ?_)
    exact List.forall₂_same.mpr fun field hfield => shows_name hfield
  have hvalues : List.Forall₂ Shows ((shownFigures metadata).map fun field => cellText field.2)
      ((shownFigures metadata).map fun field => (valueText field.2).toList) := by
    refine List.forall₂_map_left_iff.mpr (List.forall₂_map_right_iff.mpr ?_)
    exact List.forall₂_same.mpr fun field hfield =>
      shows_cellText (h _ (List.mem_map_of_mem hfield))
  have htitle : Shows "Meta" "Meta".toList := shows_of_all_isPlain (by decide)
  have hkey : Shows "Key" "Key".toList := shows_of_all_isPlain (by decide)
  have hvalue : Shows "Value" "Value".toList := shows_of_all_isPlain (by decide)
  refine ⟨⟨_, rfl, htitle⟩, rfl, .cons ?_ (.cons ?_ .nil), .none⟩
  · exact ⟨hkey, hkeys, rfl⟩
  · exact ⟨hvalue, hvalues, rfl⟩

theorem texts_figureTable {text : String}
    (h : text ∈ (figureTable (shownFigures metadata)).texts) :
    text ∈ figureTexts metadata ∨ ∃ shown, Shows text shown := by
  have htexts : (figureTable (shownFigures metadata)).texts =
      "Meta" :: "Key" :: (shownFigures metadata).map (·.1) ++
        "Value" :: (shownFigures metadata).map fun field => cellText field.2 := by
    simp [Table.texts, figureTable]
  rw [htexts] at h
  rcases List.mem_append.mp h with hkey | hvalue
  · rcases List.mem_cons.mp hkey with rfl | hkey
    · exact .inr ⟨_, shows_of_all_isPlain (by decide)⟩
    · rcases List.mem_cons.mp hkey with rfl | hkey
      · exact .inr ⟨_, shows_of_all_isPlain (by decide)⟩
      · obtain ⟨field, hfield, rfl⟩ := List.mem_map.mp hkey
        exact .inr ⟨_, shows_name hfield⟩
  · rcases List.mem_cons.mp hvalue with rfl | hvalue
    · exact .inr ⟨_, shows_of_all_isPlain (by decide)⟩
    · obtain ⟨field, hfield, rfl⟩ := List.mem_map.mp hvalue
      by_cases hnull : field.2 = .null
      · exact .inr ⟨_, hnull ▸ shows_null⟩
      · exact .inl (cellText_eq_valueText hnull ▸ List.mem_map_of_mem hfield)

theorem printFigures_eq (screen : ℕ) (metadata : Fields Value) :
    printFigures screen metadata =
      if (shownFigures metadata).isEmpty then .ok ""
      else (figureTable (shownFigures metadata)).print screen := by
  unfold printFigures
  cases shownFigures metadata <;> rfl

/-- Figures whose texts hold no markup are drawn with these texts. -/
theorem printFigures_of_isLiteral
    (h : ∀ text ∈ figureTexts metadata, isLiteral text.toList = true) (screen : ℕ) :
    printFigures screen metadata = .ok (plainFigureReport screen metadata) := by
  rw [printFigures_eq, plainFigureReport]
  split_ifs
  · rfl
  · exact (shownAs_figureTable h).print_eq screen

/-- A report of figures that fails has a text whose markup cannot be read. -/
theorem exists_text_of_printFigures_error {f : Failure} {screen : ℕ}
    (h : printFigures screen metadata = .error f) :
    f = .markup ∧ ∃ text ∈ figureTexts metadata, renderMarkup text.toList = .error .markup := by
  rw [printFigures_eq] at h
  split_ifs at h
  obtain ⟨hmarkup, text, htext, herror⟩ := Table.exists_text_of_print_error h
  rcases texts_figureTable htext with hmem | ⟨shown, hshown⟩
  · exact ⟨hmarkup, text, hmem, herror⟩
  · exact nomatch herror.symm.trans hshown

end Figures

/-- Reports of texts without markup are drawn with exactly these texts. A report that fails has a
text whose markup cannot be read. A cell shows the text of its value if that text holds no markup,
and for texts without colons only then; the same holds for titles and column names. -/
theorem reports_show_texts (screen : ℕ) (title : String) (rows : List (Fields Value))
    (metadata : Fields Value) :
    ((∀ text ∈ rowTexts title rows, isLiteral text.toList = true) →
      printRows screen title rows = .ok (plainRowReport screen title rows)) ∧
    ((∀ text ∈ figureTexts metadata, isLiteral text.toList = true) →
      printFigures screen metadata = .ok (plainFigureReport screen metadata)) ∧
    (∀ f, printRows screen title rows = .error f → f = .markup ∧
      ∃ text ∈ rowTexts title rows, renderMarkup text.toList = .error .markup) ∧
    (∀ f, printFigures screen metadata = .error f → f = .markup ∧
      ∃ text ∈ figureTexts metadata, renderMarkup text.toList = .error .markup) ∧
    (∀ v, isLiteral (valueText v).toList = true → Shows (cellText v) (valueText v).toList) ∧
    (∀ v, ':' ∉ (valueText v).toList →
      (Shows (cellText v) (valueText v).toList ↔ isLiteral (valueText v).toList = true)) ∧
    ∀ text : String, ':' ∉ text.toList →
      (Shows text text.toList ↔ isLiteral text.toList = true) :=
  ⟨fun h => printRows_of_isLiteral h screen, fun h => printFigures_of_isLiteral h screen,
    fun _ => exists_text_of_printRows_error, fun _ => exists_text_of_printFigures_error,
    fun _ => shows_cellText, fun _ => shows_cellText_iff, fun _ => renderMarkup_eq_self_iff⟩

theorem reports_show_texts_bracketed :
    printRows 30 defaultTitle [[("a", .text "x [1]"), ("b", .null)], [("b", .list [.int 1])]] =
        .ok ("    Results     \n╭───────┬──────╮\n│ a     │ b    │\n├───────┼──────┤\n" ++
          "│ x [1] │ NULL │\n│ NULL  │ [1]  │\n╰───────┴──────╯\n    2 row(s)    \n") ∧
      printFigures 30 [("changes", .int 2)] =
        .ok ("       Meta        \n                   \n  Key       Value  \n" ++
          " ───────────────── \n  changes       2  \n                   \n") := by
  have hliteral : ∀ {texts : List String}, (∀ text ∈ texts, ':' ∉ text.toList ∧
      isUntagged text.toList = true ∧ unescaped text.toList = text.toList ∧
      withoutControls text.toList = text.toList) →
      ∀ text ∈ texts, isLiteral text.toList = true := by
    intro texts h text htext
    obtain ⟨hcolon, huntagged, hunescaped, hcontrols⟩ := h text htext
    exact isLiteral_iff.mpr ⟨huntagged, hunescaped, withPictures_of_not_mem hcolon, hcontrols⟩
  obtain ⟨hrows, hfigures, -⟩ := reports_show_texts 30 defaultTitle
    [[("a", .text "x [1]"), ("b", .null)], [("b", .list [.int 1])]] [("changes", .int 2)]
  refine ⟨(hrows (hliteral (by decide))).trans ?_, (hfigures (hliteral (by decide))).trans ?_⟩
  · exact congrArg _ (by decide +kernel)
  · exact congrArg _ (by decide +kernel)

/-- A stray closing tag among the values makes the report fail, and the text of a list with a truth
value is removed as a tag. -/
theorem values_taken_for_markup :
    printRows 20 defaultTitle [[("a", .text "[/x]")]] = .error .markup ∧
      valueText (.list [.bool true]) = "[true]" ∧ Shows (cellText (.list [.bool true])) [] := by
  refine ⟨by rfl, by rfl, by rfl⟩

end SqlBridge.Report
