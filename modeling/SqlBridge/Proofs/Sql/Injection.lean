import SqlBridge.Proofs.Sql.Clause
import SqlBridge.Proofs.Sql.Token

/-!
Names in statements. Tokenizing a statement yields the names of the statement, each as a name, and
one placeholder for each parameter; so no part of a name is read as anything else. The exception is
a membership that is not expanded: its text contains the name of its parameter without quotes, and
such a statement cannot be tokenized.
-/

namespace SqlBridge.Sql

theorem filterMap_name?_ofNames (names : List String) :
    (names.map Token.ofName).filterMap Token.name? = names := by
  have hback : Token.name? ∘ Token.ofName = some := funext Token.name?_ofName
  rw [List.filterMap_map, hback, List.filterMap_some]

theorem count_mark_ofNames (names : List String) :
    (names.map Token.ofName).count .mark = 0 := by
  rw [List.count_eq_zero]
  intro hmark
  obtain ⟨name, -, hname⟩ := List.mem_map.mp hmark
  have hback := Token.name?_ofName name
  rw [hname] at hback
  cases hback

namespace Fragment

variable {β : Type}

theorem ofText_append (s t : String) : (ofText (s ++ t) : Fragment β) = ofText s ++ ofText t := rfl

theorem ofText_intercalate (separator : String) (texts : List String) :
    (ofText (separator.intercalate texts) : Fragment β) = join separator (texts.map ofText) := by
  have htext := text_join (α := β) separator (texts.map ofText)
  have hparams := params_join (α := β) separator (texts.map ofText)
  cases hjoin : join (α := β) separator (texts.map ofText) with
  | mk text params => simp_all [ofText, Function.comp_def, List.flatMap_map]

/-- A fragment that can be tokenized if `good` holds, and not otherwise. Its tokens are the given
names and one placeholder for each of its parameters. -/
def Shows (good : Prop) (f : Fragment β) (names : List String) : Prop :=
  ∃ found, Legible good f.text found ∧
    found.filterMap Token.name? = names ∧ found.count .mark = f.params.length

theorem shows_ofText {text : String} {names : List String}
    (h : tokens? text = some (names.map Token.ofName)) :
    (ofText text : Fragment β).Shows True names :=
  ⟨_, ⟨fun _ => h, fun hnot => absurd trivial hnot⟩, filterMap_name?_ofNames names,
    count_mark_ofNames names⟩

theorem shows_identifier {name : String} (hfeed : '\n' ∉ name.toList) :
    (ofText (identifier name) : Fragment β).Shows True [name] :=
  shows_ofText (tokens?_identifier hfeed)

theorem shows_placeholder (b : β) : (placeholder b).Shows True [] := by
  have hmark : Leads "?" [.mark] := by decide
  exact ⟨[.mark], hmark.legible, rfl, rfl⟩

namespace Shows

variable {a b : Fragment β} {good good' : Prop} {names more : List String}

theorem congr (h : a.Shows good names) (hgood : good ↔ good') : a.Shows good' names := by
  obtain ⟨found, hlegible, hnames, hmarks⟩ := h
  exact ⟨found, hlegible.congr hgood, hnames, hmarks⟩

/-- A fragment after a text that leads to it. -/
theorem after (text : String) (names : List String) (hlead : Leads text (names.map Token.ofName))
    (hb : b.Shows good more) : (ofText text ++ b).Shows good (names ++ more) := by
  obtain ⟨found, hlegible, hnames, hmarks⟩ := hb
  refine ⟨names.map Token.ofName ++ found, Legible.after hlead hlegible, ?_, ?_⟩
  · rw [List.filterMap_append, filterMap_name?_ofNames, hnames]
  · rw [List.count_append, count_mark_ofNames, hmarks, Nat.zero_add]
    rfl

/-- The concatenation of fragments, where the second begins with a sign. -/
theorem append (ha : a.Shows good names) (hb : b.Shows good' more)
    (hsign : BeginsWithSign b.text) : (a ++ b).Shows (good ∧ good') (names ++ more) := by
  obtain ⟨found, hlegible, hnames, hmarks⟩ := ha
  obtain ⟨found', hlegible', hnames', hmarks'⟩ := hb
  refine ⟨found ++ found', hlegible.append hlegible' hsign, ?_, ?_⟩
  · rw [List.filterMap_append, hnames, hnames']
  · rw [List.count_append, hmarks, hmarks', params_append, List.length_append]

/-- A fragment before a text without parameters. -/
theorem followed (ha : a.Shows good names) (text : String) (more : List String)
    (htext : tokens? text = some (more.map Token.ofName)) (hsign : BeginsWithSign text) :
    (a ++ ofText text).Shows good (names ++ more) :=
  (ha.append (shows_ofText htext) hsign).congr (and_iff_left trivial)

/-- A fragment after a text without names. -/
theorem behind (text : String) (hlead : Leads text []) (hb : b.Shows good more) :
    (ofText text ++ b).Shows good more := after text [] hlead hb

/-- A fragment before a text without names and placeholders. -/
theorem closed (ha : a.Shows good names) (text : String) (htext : tokens? text = some [])
    (hsign : BeginsWithSign text) : (a ++ ofText text).Shows good names := by
  have hall := ha.followed text [] htext hsign
  rwa [List.append_nil] at hall

/-- A fragment without names after one that can be tokenized. -/
theorem completed (ha : a.Shows True names) (hb : b.Shows good [])
    (hsign : BeginsWithSign b.text) : (a ++ b).Shows good names := by
  have hall := ha.append hb hsign
  rw [List.append_nil] at hall
  exact hall.congr (and_iff_right trivial)

/-- An optional clause. -/
theorem clause (ha : a.Shows good names) (hb : b.Shows good' more)
    (hsign : b = ofText "" ∨ BeginsWithSign b.text) :
    (a ++ b).Shows (good ∧ good') (names ++ more) := by
  rcases hsign with rfl | hsign
  · -- The empty text is always read, so its condition holds, and nothing is found in it.
    obtain ⟨found, hlegible, hnames, -⟩ := hb
    have hgood : good' := by
      by_contra hnot
      have hread : walk .between "".toList ≠ none := by decide
      exact hread (hlegible.breaks hnot)
    have hfound : found = [] := by
      have hread := hlegible.reads hgood
      exact (Option.some.inj hread).symm
    have hmore : more = [] := by
      rw [← hnames, hfound]
      rfl
    rw [append_ofText_empty, hmore, List.append_nil]
    exact ha.congr (and_iff_left hgood).symm
  · exact ha.append hb hsign

end Shows

/-- Fragments joined by a separator that begins with a sign. -/
theorem shows_join {α : Type} (separator : String) (hlead : Leads separator [])
    (hsign : BeginsWithSign separator) {good : α → Prop} {names : α → List String}
    {items : List α} {fragments : List (Fragment β)}
    (h : List.Forall₂ (fun item f => f.Shows (good item) (names item)) items fragments) :
    (join separator fragments).Shows (∀ item ∈ items, good item) (items.flatMap names) := by
  induction h with
  | nil =>
    have hempty : (ofText "" : Fragment β).Shows True [] := shows_ofText (by decide)
    exact hempty.congr (by simp)
  | @cons item f rest others hfirst hrest ih =>
    cases hrest with
    | nil => simpa [join] using hfirst
    | cons hsecond hmore =>
      have hall := hfirst.append (Shows.behind separator hlead ih) (hsign.append _)
      rw [← append_assoc] at hall
      exact hall.congr List.forall_mem_cons.symm

end Fragment

open Fragment

/-- The names in the text of a column. -/
def ColumnName.names : ColumnName → List String
  | .named name => [name]
  | _ => []

def Predicate.names : Predicate → List String
  | .isNull column _ => column.names
  | .isTruth column _ _ => column.names
  | .compare column _ _ => column.names
  | .member column _ _ => column.names

/-- The names in the text of a projection, including its own. -/
def Projection.names : Projection → List String
  | .everything => []
  | .rowId => ["rowid"]
  | .count => ["count", "count"]
  | .sum column => ["sum"] ++ column.names ++ ["sum"]

def Selection.names (s : Selection) : List String :=
  s.projection.names ++ [s.table] ++ s.predicates.flatMap Predicate.names
    ++ s.order.flatMap fun o => o.column.names

def Scope.names : Scope → List String
  | .all => []
  | .satisfying predicates => predicates.flatMap Predicate.names
  | .chosen rows => "rowid" :: rows.names

/-- The names in a statement, in the order of its text. -/
def Statement.names : Statement → List String
  | .select s => s.names
  | .insert table columns _ => table :: columns
  | .insertRow table columns _ => table :: columns
  | .update table assignments scope => table :: assignments.keys ++ scope.names
  | .delete table scope => table :: scope.names

/-- Whether the only blanks of a name are spaces. -/
def Unblanked (name : String) : Prop := ∀ c ∈ name.toList, Text.isBlank c = true → c = ' '

instance (name : String) : Decidable (Unblanked name) :=
  decidable_of_iff (name.toList.all (fun c => !Text.isBlank c || c = ' ') = true) (by
    simp only [Unblanked, List.all_eq_true, Bool.or_eq_true, Bool.not_eq_true', decide_eq_true_eq,
      ← Bool.not_eq_true, imp_iff_not_or])

/-- Whether a condition has a placeholder for each of its members. -/
def Predicate.Expands : Predicate → Prop
  | .member (.named name) _ _ => Unblanked name
  | _ => True

def Statement.Expands (s : Statement) : Prop := ∀ p ∈ s.predicates, p.Expands

theorem mem_replaceRuns_iff {inRun : Bool} {cs : List Char} {c : Char} (hc : c ≠ '_') :
    c ∈ replaceRuns inRun cs ↔ c ∈ cs ∧ isBaseSeparator c = false := by
  induction cs generalizing inRun with
  | nil => simp [replaceRuns]
  | cons d rest ih =>
    by_cases hd : isBaseSeparator d = true
    · have hother : isBaseSeparator c = false → c ≠ d := by
        rintro hsep rfl
        rw [hd] at hsep
        cases hsep
      cases inRun <;> simp only [replaceRuns, hd, if_true, Bool.false_eq_true, if_false, ih,
        List.mem_cons, hc, false_or] <;> grind
    · simp only [replaceRuns, hd, Bool.false_eq_true, if_false, List.mem_cons, ih]
      grind

theorem mem_trimBy_iff {p : Char → Bool} {cs : List Char} {c : Char} (hc : p c = false) :
    c ∈ Text.trimBy p cs ↔ c ∈ cs := by
  have hdrop : ∀ ds : List Char, c ∈ ds.dropWhile p ↔ c ∈ ds := by
    intro ds
    induction ds with
    | nil => rfl
    | cons d rest ih =>
      by_cases hd : p d = true
      · have hother : c ≠ d := by
          rintro rfl
          rw [hd] at hc
          cases hc
        simp [hd, ih, hother]
      · simp [hd]
  simp only [Text.trimBy, List.mem_reverse, hdrop]

/-- The parameter of a column is expanded unless the column has a blank other than the space in its
name. -/
theorem expands_iff (name : String) (n : ℕ) :
    expands (bindBase name ++ "_" ++ Decimal.natText n) = true ↔ Unblanked name := by
  have hnumber : ∀ c ∈ (Decimal.natText n).toList, Text.isBlank c = false := fun c hc =>
    not_isBlank_of_isPlainChar (natText_plain n c hc)
  have hseparators : Unblanked "%() $.[]:" := by decide
  have hunderscore : "_".toList.all (fun c => !Text.isBlank c) = true := by decide
  -- The space is the only blank among the separators, so all others stay in the base.
  have hbase : ∀ c, Text.isBlank c = true → (c ∈ (bindBase name).toList ↔
      c ∈ name.toList ∧ c ≠ ' ') := by
    intro c hblank
    have hother : c ≠ '_' := by
      rintro rfl
      exact absurd hblank (by decide)
    have hspace : isBaseSeparator c = false ↔ c ≠ ' ' := by
      constructor
      · rintro hsep rfl
        exact absurd hsep (by decide)
      · intro hne
        rw [← Bool.not_eq_true, isBaseSeparator]
        intro hmem
        exact hne (hseparators c (by simpa using hmem) hblank)
    rw [bindBase, String.toList_ofList, mem_trimBy_iff (by simpa using hother),
      mem_replaceRuns_iff hother, hspace]
  unfold expands Unblanked
  simp only [String.toList_append, List.all_append, hunderscore, Bool.and_true, Bool.and_eq_true,
    List.all_eq_true, Bool.not_eq_true']
  constructor
  · rintro ⟨hall, -⟩ c hc hblank
    by_contra hne
    have hmem := (hbase c hblank).mpr ⟨hc, hne⟩
    rw [hall c hmem] at hblank
    cases hblank
  · intro h
    refine ⟨fun c hc => ?_, hnumber⟩
    by_contra hblank
    obtain ⟨hmem, hne⟩ := (hbase c (by simpa using hblank)).mp hc
    exact hne (h c hmem (by simpa using hblank))

/-- Names without a line feed, which can be read back. -/
def Readable (names : List String) : Prop := ∀ name ∈ names, '\n' ∉ name.toList

theorem readable_append {names more : List String} :
    Readable (names ++ more) ↔ Readable names ∧ Readable more := List.forall_mem_append

theorem shows_list {fragments : List (Fragment Slot)} (h : ∀ f ∈ fragments, f.Shows True []) :
    (join ", " fragments).Shows True [] := by
  have heach : List.Forall₂ (fun (_ : Fragment Slot) f => f.Shows True []) fragments fragments :=
    List.forall₂_same.mpr h
  have hall := shows_join ", " (by decide) (by decide) heach
  have hnone : fragments.flatMap (fun _ => ([] : List String)) = [] := by simp
  rw [hnone] at hall
  exact hall.congr (iff_true_intro fun _ _ => trivial)

theorem shows_group (slots : List Slot) : (group slots).Shows True [] := by
  have hmarks : (join ", " (slots.map placeholder)).Shows True [] := by
    refine shows_list fun f hf => ?_
    obtain ⟨v, -, rfl⟩ := List.mem_map.mp hf
    exact shows_placeholder v
  exact (Shows.behind "(" (by decide) hmarks).closed ")" (by decide) (by decide)

theorem shows_rowGroups (name : String) (rows : List Value) :
    (rowGroups name rows).Shows True [] := by
  have hgroups : (join ", " ((rows.zipIdx 1).map fun row =>
      group (memberSlots name [row.2] (row.1.members?.getD [])))).Shows True [] := by
    refine shows_list fun f hf => ?_
    obtain ⟨row, -, rfl⟩ := List.mem_map.mp hf
    exact shows_group _
  exact (Shows.behind "(VALUES " (by decide) hgroups).closed ")" (by decide) (by decide)

/-- A member list that is not expanded cannot be tokenized, for any name of its parameter. -/
theorem shows_memberGroup (name : String) (operands : List Value) :
    (memberGroup name operands).Shows (expands name = true) [] := by
  unfold memberGroup
  by_cases hexpands : expands name = true
  · rw [if_neg (by simp [hexpands])]
    refine Shows.congr ?_ (iff_of_true trivial hexpands)
    split
    · exact shows_ofText (by decide)
    · split
      · exact shows_rowGroups name _
      · exact shows_group _
  · -- The bracket is neither a sign nor part of a word, so the reader does not get to the name.
    rw [if_pos (by simpa using hexpands)]
    have hlead : walk .between "(__[POSTCOMPILE_".toList = none := by decide
    refine ⟨[], ⟨fun hgood => absurd hgood hexpands, fun _ => ?_⟩, rfl, rfl⟩
    rw [text_ofText, String.toList_append, String.toList_append, walk_append, walk_append, hlead]
    rfl

theorem shows_column {column : ColumnName} {text : String} (h : column.render = .ok text)
    (hreadable : Readable column.names) :
    (ofText text : Fragment Slot).Shows True column.names := by
  cases column with
  | named name =>
    cases h
    exact shows_identifier (hreadable name List.mem_cons_self)
  | _ => cases h

/-- A column before a text without parameters. -/
theorem shows_column_then {column : ColumnName} {text : String} (h : column.render = .ok text)
    (hreadable : Readable column.names) (rest : String) (hrest : tokens? rest = some [])
    (hsign : BeginsWithSign rest) :
    (ofText (text ++ rest) : Fragment Slot).Shows True column.names :=
  (shows_column h hreadable).closed rest hrest hsign

theorem leads_relation (relation : Relation) : Leads (" " ++ relation.symbol ++ " ") [] := by
  cases relation <;> decide

theorem expands_iff_of_next {column : ColumnName} {text bind : String} {binds next : Binds}
    (htext : column.render = .ok text) (hbind : binds.next column.base = .ok (bind, next))
    (positive : Bool) (operands : List Value) :
    expands bind = true ↔ (Predicate.member column positive operands).Expands := by
  cases column with
  | named name =>
    simp only [Binds.next] at hbind
    split at hbind
    · cases hbind
    · cases hbind
      exact expands_iff name _
  | _ => cases htext

/-- A condition shows its column, and can be tokenized if its members are expanded. -/
theorem shows_predicate {p : Predicate} {binds after : Binds} {f : Fragment Slot}
    (h : p.render binds = .ok (f, after)) (hreadable : Readable p.names) :
    f.Shows p.Expands p.names := by
  cases p with
  | isNull column positive =>
    obtain ⟨text, htext, heq⟩ := Outcome.bind_eq_ok_iff.mp h
    cases heq
    cases positive <;> exact shows_column_then htext hreadable _ (by decide) (by decide)
  | isTruth column positive truth =>
    obtain ⟨text, htext, heq⟩ := Outcome.bind_eq_ok_iff.mp h
    cases heq
    rw [String.append_assoc]
    cases positive <;> cases truth <;>
      exact shows_column_then htext hreadable _ (by decide) (by decide)
  | compare column relation operand =>
    obtain ⟨text, htext, hrest⟩ := Outcome.bind_eq_ok_iff.mp h
    obtain ⟨⟨bind, next⟩, -, heq⟩ := Outcome.bind_eq_ok_iff.mp hrest
    cases heq
    have hoperand := Shows.behind _ (leads_relation relation)
      (shows_placeholder (Slot.named bind operand))
    have hsign : BeginsWithSign (" " ++ relation.symbol ++ " " ++ "?") := by
      cases relation <;> decide
    have hall := (shows_column htext hreadable).completed hoperand hsign
    rw [← append_assoc, ← ofText_append, ← String.append_assoc, ← String.append_assoc] at hall
    exact hall
  | member column positive operands =>
    obtain ⟨text, htext, hrest⟩ := Outcome.bind_eq_ok_iff.mp h
    obtain ⟨⟨bind, next⟩, hbind, heq⟩ := Outcome.bind_eq_ok_iff.mp hrest
    have hmembers : (memberGroup bind operands).Shows
        (Predicate.member column positive operands).Expands [] :=
      (shows_memberGroup bind operands).congr (expands_iff_of_next htext hbind positive operands)
    have hcolumn := shows_column htext hreadable
    cases positive with
    | true =>
      cases heq
      have hin := Shows.behind " IN " (by decide) hmembers
      have hall := hcolumn.completed hin ((by decide : BeginsWithSign " IN ").append _)
      rwa [← append_assoc] at hall
    | false =>
      cases heq
      have hclosed := hmembers.closed ")" (by decide) (by decide)
      have hin := Shows.behind " NOT IN " (by decide) hclosed
      have hnamed := hcolumn.completed hin ((by decide : BeginsWithSign " NOT IN ").append _)
      have hall := Shows.behind "(" (by decide) hnamed
      simp only [← append_assoc] at hall
      exact hall

theorem shows_predicates {ps : List Predicate} {binds after : Binds}
    {fragments : List (Fragment Slot)}
    (h : renderPredicates binds ps = .ok (fragments, after))
    (hreadable : Readable (ps.flatMap Predicate.names)) :
    List.Forall₂ (fun p f => f.Shows p.Expands p.names) ps fragments := by
  induction ps generalizing binds fragments with
  | nil =>
    cases h
    exact .nil
  | cons p rest ih =>
    obtain ⟨⟨f, next⟩, hfirst, hrest⟩ := Outcome.bind_eq_ok_iff.mp h
    obtain ⟨⟨others, last⟩, hothers, heq⟩ := Outcome.bind_eq_ok_iff.mp hrest
    cases heq
    rw [List.flatMap_cons, readable_append] at hreadable
    exact .cons (shows_predicate hfirst hreadable.1) (ih hothers hreadable.2)

/-- The conditions of a statement after their lead, or no text without conditions. -/
theorem shows_whereClause (lead : String) (hlead : Leads lead []) (hsign : BeginsWithSign lead)
    {ps : List Predicate} {binds after : Binds} {fragments : List (Fragment Slot)}
    (h : renderPredicates binds ps = .ok (fragments, after))
    (hreadable : Readable (ps.flatMap Predicate.names)) :
    (whereClause lead fragments).Shows (∀ p ∈ ps, p.Expands) (ps.flatMap Predicate.names) ∧
      (whereClause lead fragments = ofText "" ∨
        BeginsWithSign (whereClause lead fragments).text) := by
  have hjoined := shows_join " AND " (by decide) (by decide)
    (shows_predicates h hreadable)
  cases fragments with
  | nil => exact ⟨hjoined, .inl rfl⟩
  | cons f rest => exact ⟨Shows.behind lead hlead hjoined, .inr (hsign.append _)⟩

theorem shows_orders {orders : List Order} {texts : List String}
    (h : orders.mapM Order.render = .ok texts)
    (hreadable : Readable (orders.flatMap fun o => o.column.names)) :
    List.Forall₂ (fun o (f : Fragment Slot) => f.Shows True o.column.names) orders
      (texts.map ofText) := by
  induction orders generalizing texts with
  | nil =>
    cases h
    exact .nil
  | cons o rest ih =>
    obtain ⟨text, others, horder, hothers, rfl⟩ := Outcome.mapM_cons_eq_ok_iff.mp h
    obtain ⟨name, hname, heq⟩ := Outcome.bind_eq_ok_iff.mp horder
    cases heq
    rw [List.flatMap_cons, readable_append] at hreadable
    have hfirst : (ofText (name ++ if o.descending then " DESC" else " ASC") :
        Fragment Slot).Shows True
        o.column.names := by
      cases o.descending <;> exact shows_column_then hname hreadable.1 _ (by decide) (by decide)
    exact .cons hfirst (ih hothers hreadable.2)

theorem shows_orderClause {orders : List Order} {text : String} (h : orderClause orders = .ok text)
    (hreadable : Readable (orders.flatMap fun o => o.column.names)) :
    (ofText text : Fragment Slot).Shows True (orders.flatMap fun o => o.column.names) ∧
      ((ofText text : Fragment Slot) = ofText "" ∨ BeginsWithSign text) := by
  obtain ⟨texts, htexts, heq⟩ := Outcome.bind_eq_ok_iff.mp h
  have hjoined := (shows_join ", " (by decide) (by decide)
    (shows_orders htexts hreadable)).congr (iff_true_intro fun _ _ => trivial)
  rw [← ofText_intercalate] at hjoined
  cases heq
  cases texts with
  | nil => exact ⟨hjoined, .inl rfl⟩
  | cons first rest =>
    have hlead : Leads " ORDER BY " [] := by decide
    have hsign : BeginsWithSign " ORDER BY " := by decide
    exact ⟨Shows.behind " ORDER BY " hlead hjoined, .inr (hsign.append _)⟩

theorem shows_page {page : Page} {binds after : Binds} {f : Fragment Slot}
    (h : page.render binds = .ok (f, after)) :
    f.Shows True [] ∧ (f = ofText "" ∨ BeginsWithSign f.text) := by
  have hboth : Leads "\n LIMIT ? OFFSET ?" [.mark, .mark] := by decide
  have hsign : BeginsWithSign "\n LIMIT ? OFFSET ?" := by decide
  unfold Page.render at h
  split at h
  · cases h
    exact ⟨shows_ofText (by decide), .inl rfl⟩
  · obtain ⟨x, -, hrest⟩ := Outcome.bind_eq_ok_iff.mp h
    obtain ⟨y, -, heq⟩ := Outcome.bind_eq_ok_iff.mp hrest
    cases heq
    exact ⟨⟨[.mark, .mark], hboth.legible, rfl, rfl⟩, .inr hsign⟩

theorem shows_projection {p : Projection} {text : String} (h : p.render = .ok text)
    (hreadable : Readable p.names) : (ofText text : Fragment Slot).Shows True p.names := by
  cases p with
  | everything =>
    cases h
    exact shows_ofText (by decide)
  | rowId =>
    cases h
    exact shows_ofText (by decide)
  | count =>
    cases h
    exact shows_ofText (by decide)
  | sum column =>
    obtain ⟨name, hname, heq⟩ := Outcome.bind_eq_ok_iff.mp h
    cases heq
    simp only [Projection.names, readable_append] at hreadable
    have hcolumn := Shows.after "sum(" ["sum"] (by decide)
      (shows_column hname hreadable.1.2)
    exact hcolumn.followed ") AS sum" ["sum"] (by decide) (by decide)

theorem shows_readLead {p : Projection} {columns table : String} (h : p.render = .ok columns)
    (hprojection : Readable p.names) (htable : Readable [table]) :
    (readLead columns table : Fragment Slot).Shows True (p.names ++ [table]) := by
  have htable' : (ofText (identifier table) : Fragment Slot).Shows True [table] :=
    shows_identifier (htable table List.mem_cons_self)
  have hfrom := Shows.behind " \nFROM " (by decide) htable'
  have hsign : BeginsWithSign " \nFROM " := by decide
  have hcolumns := (shows_projection h hprojection).append hfrom (hsign.append _)
  have hall := Shows.behind "SELECT " (by decide) hcolumns
  simp only [← ofText_append, ← String.append_assoc] at hall
  exact hall.congr (and_iff_left trivial)

theorem shows_selection {s : Selection} {binds after : Binds} {f : Fragment Slot}
    (h : s.render binds = .ok (f, after)) (hreadable : Readable s.names) :
    f.Shows (∀ p ∈ s.predicates, p.Expands) s.names := by
  obtain ⟨columns, hcolumns, hrest⟩ := Outcome.bind_eq_ok_iff.mp h
  obtain ⟨⟨fragments, next⟩, hpredicates, hrest⟩ := Outcome.bind_eq_ok_iff.mp hrest
  obtain ⟨order, horder, hrest⟩ := Outcome.bind_eq_ok_iff.mp hrest
  obtain ⟨⟨page, last⟩, hpage, heq⟩ := Outcome.bind_eq_ok_iff.mp hrest
  cases heq
  simp only [Selection.names, readable_append] at hreadable
  obtain ⟨⟨⟨hprojection, htable⟩, hconditions⟩, horders⟩ := hreadable
  have hlead := shows_readLead hcolumns hprojection htable
  obtain ⟨hwhere, hwhereSign⟩ := shows_whereClause " \nWHERE " (by decide) (by decide)
    hpredicates hconditions
  obtain ⟨hordered, horderSign⟩ := shows_orderClause horder horders
  obtain ⟨hpaged, hpageSign⟩ := shows_page hpage
  have hall := ((hlead.clause hwhere hwhereSign).clause hordered horderSign).clause hpaged hpageSign
  rw [List.append_nil] at hall
  exact hall.congr (by simp)

/-- The condition of a change; a change of all rows has none. -/
theorem shows_scope {scope : Scope} {binds : Binds} {f : Fragment Slot}
    (h : scope.render binds = .ok f) (hreadable : Readable scope.names) :
    f.Shows (∀ p ∈ scope.predicates, p.Expands) scope.names ∧
      (f = ofText "" ∨ BeginsWithSign f.text) := by
  cases scope with
  | all =>
    cases h
    have hempty : (ofText "" : Fragment Slot).Shows True [] := shows_ofText (by decide)
    exact ⟨hempty.congr (by simp [Scope.predicates]), .inl rfl⟩
  | satisfying predicates =>
    obtain ⟨⟨fragments, next⟩, hpredicates, heq⟩ := Outcome.bind_eq_ok_iff.mp h
    cases heq
    exact shows_whereClause " WHERE " (by decide) (by decide) hpredicates hreadable
  | chosen rows =>
    obtain ⟨⟨f, next⟩, hrows, heq⟩ := Outcome.bind_eq_ok_iff.mp h
    cases heq
    have hread := shows_selection hrows (List.forall_mem_cons.mp hreadable).2
    have hopened := Shows.after " WHERE rowid IN (" ["rowid"] (by decide) hread
    have hclosed := hopened.closed ")" (by decide) (by decide)
    have hsign : BeginsWithSign " WHERE rowid IN (" := by decide
    exact ⟨hclosed, .inr ((hsign.append _).append _)⟩

/-- Fragments that show one name each, joined. -/
theorem shows_names {α : Type} {name : α → String} {fragment : α → Fragment Slot} {items : List α}
    (h : ∀ item ∈ items, (fragment item).Shows True [name item]) :
    (join ", " (items.map fragment)).Shows True (items.map name) := by
  have heach : List.Forall₂ (fun item f => f.Shows True [name item]) items
      (items.map fragment) := by
    rw [List.forall₂_map_right_iff]
    exact List.forall₂_same.mpr h
  have hall := shows_join ", " (by decide) (by decide) heach
  rw [← List.map_eq_flatMap] at hall
  exact hall.congr (iff_true_intro fun _ _ => trivial)

theorem shows_insertText {table : String} {columns : List String} (rows : List (List Slot))
    (hreadable : Readable (table :: columns)) :
    (insertText table columns rows).Shows True (table :: columns) := by
  obtain ⟨htable, hcolumns⟩ := List.forall_mem_cons.mp hreadable
  have hname : (ofText (identifier table) : Fragment Slot).Shows True [table] :=
    shows_identifier htable
  have hlead := Shows.behind "INSERT INTO " (by decide) hname
  cases columns with
  | nil => exact hlead.closed " DEFAULT VALUES" (by decide) (by decide)
  | cons first others =>
    have hnames : (join ", " ((first :: others).map fun name => ofText (identifier name))).Shows
        True ((first :: others).map id) :=
      shows_names fun name hname => shows_identifier (hcolumns name hname)
    have hopened := Shows.behind " (" (by decide) hnames
    have hclosed := hopened.closed ")" (by decide) (by decide)
    have hgroups : (join ", " (rows.map group)).Shows True [] := by
      refine shows_list fun f hf => ?_
      obtain ⟨row, -, rfl⟩ := List.mem_map.mp hf
      exact shows_group row
    have hvalues := Shows.behind " VALUES " (by decide) hgroups
    have hlist : BeginsWithSign " (" := by decide
    have hsign : BeginsWithSign " VALUES " := by decide
    have hall := (hlead.append hclosed ((hlist.append _).append _)).append hvalues (hsign.append _)
    have htext : insertText table (first :: others) rows = ofText "INSERT INTO " ++
        ofText (identifier table) ++ (ofText " (" ++ join ", " ((first :: others).map fun name =>
          ofText (identifier name)) ++ ofText ")") ++
        (ofText " VALUES " ++ join ", " (rows.map group)) := by
      simp only [insertText, columnList, List.isEmpty_cons, Bool.false_eq_true, if_false,
        ofText_append, ofText_intercalate, List.map_map, append_assoc]
      rfl
    simp only [List.map_id, List.append_nil] at hall
    rw [htext]
    exact hall.congr (by simp)

theorem shows_assignment {field : String × Value} (h : '\n' ∉ field.1.toList) :
    (assignment field).Shows True [field.1] := by
  have hequals := Shows.behind "=" (by decide) (shows_placeholder (Slot.named field.1 field.2))
  have hsign : BeginsWithSign "=" := by decide
  have hall := (shows_identifier h).completed hequals (hsign.append _)
  rwa [← append_assoc, ← ofText_append] at hall

/-- A statement shows its names and the placeholders of its parameters, and can be tokenized if all
of its memberships are expanded. -/
theorem shows_statement {s : Statement} {f : Fragment Slot} (h : s.draft = .ok f)
    (hreadable : Readable s.names) : f.Shows s.Expands s.names := by
  cases s with
  | select rows =>
    obtain ⟨⟨f, after⟩, hrows, heq⟩ := Outcome.bind_eq_ok_iff.mp h
    cases heq
    exact shows_selection hrows hreadable
  | insert table columns rows =>
    obtain ⟨-, -, heq⟩ := Outcome.bind_eq_ok_iff.mp h
    cases heq
    exact (shows_insertText _ hreadable).congr
      (by simp [Statement.Expands, Statement.predicates])
  | insertRow table columns row =>
    obtain ⟨-, -, heq⟩ := Outcome.bind_eq_ok_iff.mp h
    cases heq
    exact (shows_insertText _ hreadable).congr
      (by simp [Statement.Expands, Statement.predicates])
  | update table assignments scope =>
    obtain ⟨-, -, hrest⟩ := Outcome.bind_eq_ok_iff.mp h
    obtain ⟨condition, hscope, heq⟩ := Outcome.bind_eq_ok_iff.mp hrest
    cases heq
    simp only [Statement.names, readable_append] at hreadable
    obtain ⟨htable, hcolumns⟩ := List.forall_mem_cons.mp hreadable.1
    obtain ⟨hcondition, hsign⟩ := shows_scope hscope hreadable.2
    have hassigned : (join ", " (assignments.map assignment)).Shows True assignments.keys :=
      shows_names fun field hfield =>
        shows_assignment (hcolumns field.1 (List.mem_map_of_mem hfield))
    have hset := Shows.behind " SET " (by decide) hassigned
    have hsetSign : BeginsWithSign " SET " := by decide
    have hlead := Shows.behind "UPDATE " (by decide)
      ((shows_identifier htable).append hset (hsetSign.append _))
    have hall := hlead.clause hcondition hsign
    simp only [← append_assoc] at hall
    exact hall.congr (by simp [Statement.Expands, Statement.predicates])
  | delete table scope =>
    obtain ⟨condition, hscope, heq⟩ := Outcome.bind_eq_ok_iff.mp h
    cases heq
    obtain ⟨htable, hnames⟩ := List.forall_mem_cons.mp hreadable
    obtain ⟨hcondition, hsign⟩ := shows_scope hscope hnames
    have hname : (ofText (identifier table) : Fragment Slot).Shows True [table] :=
      shows_identifier htable
    have hlead := Shows.behind "DELETE FROM " (by decide) hname
    exact (hlead.clause hcondition hsign).congr (and_iff_right trivial)

/-- A rendered statement shows the names of its draft and as many placeholders. -/
theorem shows_render {s : Statement} {f : Fragment Value} (h : s.render = .ok f)
    (hreadable : Readable s.names) : f.Shows s.Expands s.names := by
  obtain ⟨draft, hdraft, rfl⟩ := Statement.exists_draft_of_render h
  obtain ⟨found, hlegible, hnames, hmarks⟩ := shows_statement hdraft hreadable
  exact ⟨found, hlegible, hnames, hmarks.trans (by simp)⟩

/-- The names of a statement are preserved. Each is written bare, and then consists of name
characters only, or between quotes with its own quotes doubled; so it can be read back, and
different names have different texts. If every membership is expanded, the whole statement can be
tokenized: it has exactly these names, and its question marks outside quotes are the placeholders of
its parameters. If some membership is not expanded, it cannot be tokenized. -/
theorem names_stay_names {s : Statement} {f : Fragment Value} (h : s.render = .ok f)
    (hnames : ∀ name ∈ s.names, '\n' ∉ name.toList) :
    (∀ name ∈ s.names,
      (identifier name = name ∧ Bare name ∧
          ∀ c ∈ name.toList, c ≠ '"' ∧ c ≠ '?' ∧ Text.isBlank c = false) ∨
        identifier name = String.ofList ('"' :: doubleQuotes name.toList ++ ['"'])) ∧
      (∀ name ∈ s.names, tokens? (identifier name) = some [.ofName name] ∧
        ∀ other : String, '\n' ∉ other.toList → identifier name = identifier other →
          name = other) ∧
      (s.Expands → ∃ found, tokens? f.text = some found ∧
        found.filterMap Token.name? = s.names ∧ found.count .mark = f.params.length ∧
        placeholderCount f.text = f.params.length) ∧
      (¬s.Expands → tokens? f.text = none) := by
  refine ⟨fun name hname => ?_, fun name hname => ⟨tokens?_identifier (hnames name hname), ?_⟩,
    ?_, ?_⟩
  · unfold identifier
    cases hquotes : needsQuotes name with
    | true => exact .inr rfl
    | false =>
      have hbare := bare_of_not_needsQuotes (hnames name hname) hquotes
      exact .inl ⟨rfl, hbare, hbare.plain⟩
  · intro other hother
    exact identifier_injective (hnames name hname) hother
  · intro hexpands
    obtain ⟨found, hlegible, hread, hmarks⟩ := shows_render h hnames
    have htokens := hlegible.reads hexpands
    exact ⟨found, htokens, hread, hmarks, (placeholderCount_eq htokens).trans hmarks⟩
  · intro hnot
    obtain ⟨found, hlegible, -, -⟩ := shows_render h hnames
    unfold tokens?
    rw [hlegible.breaks hnot]
    rfl

/-- A change whose names contain quotes, question marks and other signs, a reserved word and a
letter outside ASCII. -/
def hostileChange : Statement :=
  .update "a\"b?" [("select", .int 1), ("größe", .text "x")]
    (.satisfying [.member (.named "_id\" OR 1=1 --") false [.int 1, .int 2],
      .compare (.named "n_1$") .equal (.int 3)])

theorem names_stay_names_hostileChange :
    hostileChange.render = .ok ⟨"UPDATE \"a\"\"b?\" SET \"select\"=?, \"größe\"=? WHERE " ++
        "(\"_id\"\" OR 1=1 --\" NOT IN (?, ?)) AND n_1$ = ?",
        [.int 1, .text "x", .int 1, .int 2, .int 3]⟩ ∧
      (∀ name ∈ hostileChange.names, '\n' ∉ name.toList) ∧ hostileChange.Expands ∧
      ∃ found, tokens? ("UPDATE \"a\"\"b?\" SET \"select\"=?, \"größe\"=? WHERE " ++
          "(\"_id\"\" OR 1=1 --\" NOT IN (?, ?)) AND n_1$ = ?") = some found ∧
        found.filterMap Token.name? = ["a\"b?", "select", "größe", "_id\" OR 1=1 --", "n_1$"] ∧
        found.count .mark = 5 := by
  have hrender : hostileChange.render = .ok
      ⟨"UPDATE \"a\"\"b?\" SET \"select\"=?, \"größe\"=? WHERE " ++
        "(\"_id\"\" OR 1=1 --\" NOT IN (?, ?)) AND n_1$ = ?",
        [.int 1, .text "x", .int 1, .int 2, .int 3]⟩ := rfl
  have hnames : ∀ name ∈ hostileChange.names, '\n' ∉ name.toList := by decide
  have hexpands : hostileChange.Expands := by
    intro p hp
    simp only [hostileChange, Statement.predicates, Scope.predicates, List.mem_cons,
      List.not_mem_nil, or_false] at hp
    rcases hp with rfl | rfl
    · unfold Predicate.Expands
      decide
    · trivial
  obtain ⟨-, -, hread, -⟩ := names_stay_names hrender hnames
  obtain ⟨found, htokens, hfound, hmarks, -⟩ := hread hexpands
  exact ⟨hrender, hnames, hexpands, found, htokens, hfound, hmarks⟩

/-- A read with a membership on a column with a tab in its name. -/
def tabbedRead : Statement :=
  .select ⟨.everything, "users", [.member (.named "a\t?") true [.int 1]], [], ⟨none, none⟩⟩

/-- The membership of such a column is not expanded: a question mark of its name is outside quotes
without a parameter, and the statement cannot be tokenized. -/
theorem tabbedRead_shows_name :
    (∀ name ∈ tabbedRead.names, '\n' ∉ name.toList) ∧
      tabbedRead.render = .ok
        ⟨"SELECT * \nFROM users \nWHERE \"a\t?\" IN (__[POSTCOMPILE_a\t?_1])", []⟩ ∧
      placeholderCount "SELECT * \nFROM users \nWHERE \"a\t?\" IN (__[POSTCOMPILE_a\t?_1])" = 1 ∧
      tokens? "SELECT * \nFROM users \nWHERE \"a\t?\" IN (__[POSTCOMPILE_a\t?_1])" = none :=
  ⟨by decide, rfl, by decide, by decide⟩

end SqlBridge.Sql
