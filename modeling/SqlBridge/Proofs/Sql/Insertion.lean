import SqlBridge.Proofs.Sql.Clause
import SqlBridge.Proofs.Sql.Placeholder

/-!
The text of insertions: the list of the columns, and a group of placeholders for each row; without
columns, a single row of defaults for any number of rows. The number of rows that a statement adds
is a function of its text, for any names of the table and the columns.
-/

namespace SqlBridge.Sql

/-- A group of placeholders. -/
def groupText (count : ℕ) : String := "(" ++ ", ".intercalate (List.replicate count "?") ++ ")"

/-- The text of an insertion of rows under columns. -/
def insertionText (table : String) (columns : List String) (rows : ℕ) : String :=
  "INSERT INTO " ++ identifier table ++ " (" ++ ", ".intercalate (columns.map identifier)
    ++ ") VALUES " ++ ", ".intercalate (List.replicate rows (groupText columns.length))

/-- Rows as long as the columns are written in groups of one width. -/
theorem insertText_eq {α : Type} (table : String) {columns : List String} (hne : columns ≠ [])
    {rows : List (List α)} (hrows : ∀ row ∈ rows, row.length = columns.length) :
    insertText table columns rows = ⟨insertionText table columns rows.length, rows.flatten⟩ := by
  have hgroups : (rows.map group).map (·.text) =
      List.replicate rows.length (groupText columns.length) := by
    rw [List.map_map, List.eq_replicate_iff]
    refine ⟨by simp, fun text htext => ?_⟩
    obtain ⟨row, hrow, rfl⟩ := List.mem_map.mp htext
    rw [← hrows row hrow]
    exact text_group row
  have hparams : (Fragment.join ", " (rows.map group)).params = rows.flatten := by
    simp [Fragment.params_join, List.flatMap_map, params_group, List.flatMap_id']
  have hempty : columns.isEmpty = false := by simpa using hne
  unfold insertText insertionText columnList
  rw [hempty, if_neg Bool.false_ne_true]
  change (⟨_ ++ (Fragment.join ", " _).text, [] ++ (Fragment.join ", " _).params⟩ : Fragment α) = _
  have hclose : ")" ++ " VALUES " = ") VALUES " := rfl
  rw [Fragment.text_join, hgroups, hparams, List.nil_append, Fragment.text_ofText, ← hclose]
  simp only [String.append_assoc]

/-- A row as long as the columns has the values of its parameters. -/
theorem map_value_rowSlots {columns : List String} {row : List Value}
    (h : row.length = columns.length) (mark : String) :
    (rowSlots columns mark row).map Slot.value = row := by
  induction columns generalizing row with
  | nil => simp [rowSlots, List.length_eq_zero_iff.mp h]
  | cons column rest ih =>
    cases row with
    | nil => simp at h
    | cons v others => simpa [rowSlots, Slot.named] using ih (by simpa using h)

/-- The values of an insertion are those of its rows. -/
theorem values_insertText (table : String) (columns : List String) (rows : List (List Slot)) :
    (insertText table columns rows).values =
      insertText table columns (rows.map fun row => row.map Slot.value) := by
  unfold insertText
  split
  · rfl
  · simp [Fragment.values_join, values_group, Function.comp_def]

/-- The values of rows as long as the columns. -/
theorem map_value_rows {columns : List String} {rows : List (List Value)}
    (h : ∀ row ∈ rows, row.length = columns.length) :
    (rows.zipIdx.map fun (row, i) => rowSlots columns ("_m" ++ Decimal.natText i) row).map
      (fun slots => slots.map Slot.value) = rows := by
  rw [List.map_map]
  refine (List.map_congr_left fun row hrow => ?_).trans (List.zipIdx_map_fst 0 rows)
  exact map_value_rowSlots (h _ (List.fst_mem_of_mem_zipIdx hrow)) _

namespace Statement

variable {table : String} {columns : List String}

theorem values_draft_insert {rows : List (List Value)} {draft : Fragment Slot}
    (h : (insert table columns rows).draft = .ok draft)
    (hrows : ∀ row ∈ rows, row.length = columns.length) :
    draft.values = insertText table columns rows := by
  obtain ⟨-, -, heq⟩ := Outcome.bind_eq_ok_iff.mp h
  cases heq
  rw [values_insertText, map_value_rows hrows]

theorem values_draft_insertRow {row : List Value} {draft : Fragment Slot}
    (h : (insertRow table columns row).draft = .ok draft) (hrow : row.length = columns.length) :
    draft.values = insertText table columns [row] := by
  obtain ⟨-, -, heq⟩ := Outcome.bind_eq_ok_iff.mp h
  cases heq
  rw [values_insertText, List.map_singleton, map_value_rowSlots hrow]

/-- Insertions of distinct columns with nothing to escape in their names are rendered with the
values of their rows. -/
theorem render_insert {rows : List (List Value)} (hdistinct : columns.Nodup)
    (hplain : ∀ column ∈ columns, isPlainBind column = true)
    (hrows : ∀ row ∈ rows, row.length = columns.length) :
    (insert table columns rows).render = .ok (insertText table columns rows) := by
  obtain ⟨written, hdraft⟩ : ∃ written, (insert table columns rows).draft = .ok written := by
    rw [draft, (checkDistinct_eq_ok_iff _).mpr hdistinct, Outcome.ok_bind]
    exact ⟨_, rfl⟩
  rw [render_of_plain (s := insert table columns rows) hplain, hdraft, Outcome.ok_bind,
    values_draft_insert hdraft hrows]
  rfl

theorem render_insertRow {row : List Value} (hdistinct : columns.Nodup)
    (hplain : ∀ column ∈ columns, isPlainBind column = true)
    (hrow : row.length = columns.length) :
    (insertRow table columns row).render = .ok (insertText table columns [row]) := by
  obtain ⟨written, hdraft⟩ : ∃ written, (insertRow table columns row).draft = .ok written := by
    rw [draft, (checkDistinct_eq_ok_iff _).mpr hdistinct, Outcome.ok_bind]
    exact ⟨_, rfl⟩
  rw [render_of_plain (s := insertRow table columns row) hplain, hdraft, Outcome.ok_bind,
    values_draft_insertRow hdraft hrow]
  rfl

end Statement

/-- The characters of a statement outside quoted names. -/
def unquoted (quoted : Bool) : List Char → List Char
  | [] => []
  | c :: rest =>
    if c = '"' then unquoted (!quoted) rest
    else if quoted then unquoted quoted rest
    else c :: unquoted quoted rest

/-- The number of rows that an insertion adds, by its text. Each row of values is between
parentheses, and so are the columns before them; without any, it is one row of defaults. -/
def insertedRows (text : String) : ℕ :=
  let groups := (unquoted false text.toList).count '('
  if groups = 0 then 1 else groups - 1

theorem unquoted_append (quoted : Bool) (cs ds : List Char) :
    unquoted quoted (cs ++ ds) = unquoted quoted cs ++ unquoted (quoteAfter quoted cs) ds := by
  induction cs generalizing quoted with
  | nil => rfl
  | cons c rest ih =>
    by_cases hc : c = '"'
    · simp [unquoted, quoteAfter, hc, ih]
    · cases quoted <;> simp [unquoted, quoteAfter, hc, ih]

/-- A text that opens `n` groups and closes all its quotes. -/
def Opens (text : String) (n : ℕ) : Prop :=
  (unquoted false text.toList).count '(' = n ∧ quoteAfter false text.toList = false

instance (text : String) (n : ℕ) : Decidable (Opens text n) := by
  unfold Opens
  infer_instance

theorem Opens.append {s t : String} {m n : ℕ} (hs : Opens s m) (ht : Opens t n) :
    Opens (s ++ t) (m + n) := by
  unfold Opens at *
  rw [String.toList_append, unquoted_append, quoteAfter_append, List.count_append, hs.2, hs.1,
    ht.1, ht.2]
  exact ⟨rfl, rfl⟩

theorem opens_intercalate {separator : String} (hseparator : Opens separator 0)
    {texts : List String} {n : ℕ} (h : ∀ text ∈ texts, Opens text n) :
    Opens (separator.intercalate texts) (texts.length * n) := by
  induction texts with
  | nil =>
    rw [List.length_nil, Nat.zero_mul]
    exact ⟨rfl, rfl⟩
  | cons text rest ih =>
    have htext := h text List.mem_cons_self
    have hrest := ih fun t ht => h t (List.mem_cons_of_mem text ht)
    cases rest with
    | nil => simpa using htext
    | cons next more =>
      have hall := (htext.append hseparator).append hrest
      have hcount : n + 0 + (next :: more).length * n = (text :: next :: more).length * n := by
        change n + 0 + (next :: more).length * n = ((next :: more).length + 1) * n
        rw [Nat.add_one_mul (next :: more).length n]
        omega
      rw [hcount] at hall
      simpa [String.append_assoc] using hall

/-- A quoted name contributes no characters. -/
theorem unquoted_doubleQuotes (cs : List Char) : unquoted true (doubleQuotes cs) = [] := by
  induction cs with
  | nil => rfl
  | cons c rest ih =>
    simp only [doubleQuotes] at ih
    by_cases hc : c = '"'
    · simpa [doubleQuotes, hc, unquoted] using ih
    · simpa [doubleQuotes, hc, unquoted] using ih

theorem unquoted_of_forall {cs : List Char} (h : ∀ c ∈ cs, c ≠ '"') :
    unquoted false cs = cs ∧ quoteAfter false cs = false := by
  induction cs with
  | nil => exact ⟨rfl, rfl⟩
  | cons c rest ih =>
    have hrest := ih fun d hd => h d (List.mem_cons_of_mem c hd)
    simpa [unquoted, quoteAfter, h c List.mem_cons_self] using hrest

/-- A name opens no group, whatever its characters. -/
theorem opens_identifier (name : String) : Opens (identifier name) 0 := by
  unfold identifier
  cases hquotes : needsQuotes name with
  | false =>
    have habsent : ∀ d : Char, isNameChar d = false → d ≠ '\n' → d ∉ name.toList := by
      intro d hd hfeed hmem
      rcases isNameChar_of_not_needsQuotes hquotes d hmem with hname | hline
      · rw [hd] at hname
        cases hname
      · exact hfeed hline
    have hbare : ∀ c ∈ name.toList, c ≠ '"' := by
      rintro c hc rfl
      exact habsent '"' (by decide) (by decide) hc
    obtain ⟨hsame, hclosed⟩ := unquoted_of_forall hbare
    rw [if_neg Bool.false_ne_true, Opens, hsame]
    exact ⟨List.count_eq_zero.mpr (habsent '(' (by decide) (by decide)), hclosed⟩
  | true =>
    obtain ⟨-, hopen⟩ := placeholders_doubleQuotes name.toList
    rw [if_pos rfl, Opens, String.toList_ofList]
    constructor
    · simp [unquoted, unquoted_append, unquoted_doubleQuotes]
    · simp [quoteAfter, quoteAfter_append, hopen]

theorem opens_groupText (count : ℕ) : Opens (groupText count) 1 := by
  have hmarks : Opens (", ".intercalate (List.replicate count "?"))
      ((List.replicate count "?").length * 0) := by
    refine opens_intercalate (by decide) fun text htext => ?_
    rw [List.eq_of_mem_replicate htext]
    decide
  have hopen : Opens "(" 1 := by decide
  have hclose : Opens ")" 0 := by decide
  exact (hopen.append hmarks).append hclose

theorem opens_columnList (columns : List String) : Opens (columnList columns) 1 := by
  have hnames : Opens (", ".intercalate (columns.map identifier))
      ((columns.map identifier).length * 0) := by
    refine opens_intercalate (by decide) fun text htext => ?_
    obtain ⟨name, -, rfl⟩ := List.mem_map.mp htext
    exact opens_identifier name
  have hopen : Opens " (" 1 := by decide
  have hclose : Opens ")" 0 := by decide
  exact (hopen.append hnames).append hclose

/-- An insertion without columns adds one row, any other the number of its rows. -/
theorem insertedRows_insertText {α : Type} (table : String) (columns : List String)
    (rows : List (List α)) :
    insertedRows (insertText table columns rows).text =
      if columns.isEmpty then 1 else rows.length := by
  have hlead : Opens "INSERT INTO " 0 := by decide
  have hnamed := hlead.append (opens_identifier table)
  unfold insertText
  cases columns.isEmpty with
  | true =>
    have hdefaults : Opens " DEFAULT VALUES" 0 := by decide
    have hall := hnamed.append hdefaults
    simp only [if_true, insertedRows, Fragment.text_ofText, hall.1]
  | false =>
    have hvalues : Opens " VALUES " 0 := by decide
    have hgroups : Opens (", ".intercalate ((rows.map group).map (·.text)))
        (((rows.map group).map (·.text)).length * 1) := by
      refine opens_intercalate (by decide) fun text htext => ?_
      simp only [List.map_map, List.mem_map, Function.comp_def] at htext
      obtain ⟨row, -, rfl⟩ := htext
      rw [text_group]
      exact opens_groupText row.length
    have hall := ((hnamed.append (opens_columnList columns)).append hvalues).append hgroups
    rw [← Fragment.text_join] at hall
    simp only [Bool.false_eq_true, if_false, insertedRows, Fragment.text_append,
      Fragment.text_ofText, hall.1, List.length_map]
    split <;> omega

end SqlBridge.Sql
