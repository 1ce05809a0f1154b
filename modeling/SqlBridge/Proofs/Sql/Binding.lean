import Mathlib.Data.List.Nodup
import SqlBridge.Proofs.Document.Number
import SqlBridge.Proofs.Sql.Parameter

/-!
The lookup of values by their names. No two placeholders of a draft have the same name: numbered
names differ in their base or in their number, members of a list in their places, rows of an
insertion in their mark, and a written column never has a numbered name. So each placeholder is
given the value that it was drafted with, unless the name of a written column is escaped; then the
lookup fails.
-/

namespace SqlBridge.Sql

/-- A list is determined by the parts before and after the last occurrence of an item. -/
theorem append_cons_inj {α : Type} {x : α} {as bs ds es : List α} (hds : x ∉ ds) (hes : x ∉ es)
    (h : as ++ x :: ds = bs ++ x :: es) : as = bs ∧ ds = es := by
  rcases List.append_eq_append_iff.mp h with ⟨cs, rfl, hcs⟩ | ⟨cs, rfl, hcs⟩
  · cases cs with
    | nil => simpa using hcs
    | cons c rest =>
      obtain ⟨-, rfl⟩ := List.cons_eq_cons.mp hcs
      exact absurd (List.mem_append_right rest List.mem_cons_self) hds
  · cases cs with
    | nil => simpa using hcs.symm
    | cons c rest =>
      obtain ⟨-, rfl⟩ := List.cons_eq_cons.mp hcs
      exact absurd (List.mem_append_right rest List.mem_cons_self) hes

theorem natText_injective : Function.Injective Decimal.natText := by
  intro m n h
  have hdigits := congrArg (fun text => Decimal.natOfChars text.toList) h
  simpa [Decimal.natText, Document.natOfChars_toDigits] using hdigits

/-- A text that ends in a mark and a number is determined by the part before the mark and by the
number. -/
theorem marked_inj (mark : Char) (hmark : Text.isAsciiDigit mark = false) {as bs : List Char}
    {m n : ℕ} (h : as ++ mark :: (Decimal.natText m).toList =
      bs ++ mark :: (Decimal.natText n).toList) : as = bs ∧ m = n := by
  have hdigits : ∀ k, mark ∉ (Decimal.natText k).toList := by
    intro k hmem
    rw [Decimal.natText, String.toList_ofList] at hmem
    rw [Document.isAsciiDigit_of_mem_toDigits mark hmem] at hmark
    cases hmark
  obtain ⟨hlead, hnumber⟩ := append_cons_inj (hdigits m) (hdigits n) h
  exact ⟨hlead, natText_injective (String.toList_injective hnumber)⟩

theorem numbered_inj {base other : String} {m n : ℕ}
    (h : base ++ "_" ++ Decimal.natText m = other ++ "_" ++ Decimal.natText n) :
    base = other ∧ m = n := by
  have hchars := congrArg String.toList h
  simp only [String.toList_append, List.append_assoc] at hchars
  obtain ⟨hbase, hnumber⟩ := marked_inj '_' rfl hchars
  exact ⟨String.toList_injective hbase, hnumber⟩

/-- Equal names of columns in two rows have the same column and the same row. -/
theorem rowName_inj {column other : String} {m n : ℕ}
    (h : column ++ ("_m" ++ Decimal.natText m) = other ++ ("_m" ++ Decimal.natText n)) :
    column = other ∧ m = n := by
  have hsplit : ∀ (name : String) (k : ℕ), (name ++ ("_m" ++ Decimal.natText k)).toList =
      (name.toList ++ ['_']) ++ 'm' :: (Decimal.natText k).toList := by simp
  have hchars := congrArg String.toList h
  rw [hsplit, hsplit] at hchars
  obtain ⟨hcolumn, hnumber⟩ := marked_inj 'm' rfl hchars
  exact ⟨String.toList_injective (List.append_left_injective ['_'] hcolumn), hnumber⟩

/-- The numbers of a base begin after those already used. -/
theorem exists_of_mem_numberedFrom {before bases : List String} {name : String}
    (h : name ∈ numberedFrom before bases) :
    ∃ base ∈ bases, ∃ n, before.count base < n ∧ name = base ++ "_" ++ Decimal.natText n := by
  induction bases generalizing before with
  | nil => cases h
  | cons base rest ih =>
    rcases List.mem_cons.mp h with rfl | hrest
    · exact ⟨base, List.mem_cons_self, _, Nat.lt_succ_self _, rfl⟩
    · obtain ⟨other, hother, n, hn, hname⟩ := ih hrest
      have hcount := List.count_le_count_cons (a := other) (b := base) (l := before)
      exact ⟨other, List.mem_cons_of_mem base hother, n, by omega, hname⟩

/-- Numbered names are distinct. -/
theorem nodup_numberedFrom (before bases : List String) : (numberedFrom before bases).Nodup := by
  induction bases generalizing before with
  | nil => exact List.nodup_nil
  | cons base rest ih =>
    refine List.nodup_cons.mpr ⟨fun hmem => ?_, ih (base :: before)⟩
    obtain ⟨other, -, n, hn, hname⟩ := exists_of_mem_numberedFrom hmem
    obtain ⟨rfl, rfl⟩ := numbered_inj hname
    rw [List.count_cons_self] at hn
    omega

/-- Bind parameters with distinct names, each made from one of the given texts. -/
structure NamedBy (texts : List String) (slots : List Slot) : Prop where
  nodup : (slots.map Slot.name).Nodup
  mem : ∀ slot ∈ slots, slot.name.text ∈ texts

namespace NamedBy

theorem nil : NamedBy [] [] := ⟨List.nodup_nil, by simp⟩

theorem append {texts more : List String} {slots others : List Slot} (h : NamedBy texts slots)
    (hothers : NamedBy more others) (hdisjoint : texts.Disjoint more) :
    NamedBy (texts ++ more) (slots ++ others) := by
  refine ⟨?_, ?_⟩
  · rw [List.map_append]
    refine h.nodup.append hothers.nodup fun name hname hother => ?_
    obtain ⟨slot, hslot, rfl⟩ := List.mem_map.mp hname
    obtain ⟨other, hmem, hsame⟩ := List.mem_map.mp hother
    exact hdisjoint (h.mem slot hslot) (hsame ▸ hothers.mem other hmem)
  · intro slot hslot
    rcases List.mem_append.mp hslot with hslot | hslot
    · exact List.mem_append_left more (h.mem slot hslot)
    · exact List.mem_append_right texts (hothers.mem slot hslot)

/-- The parameters of pieces in sequence, of which no two have a text in common. -/
theorem flatMap {ι : Type} {items : List ι} {texts : ι → List String} {slots : ι → List Slot}
    (h : ∀ i ∈ items, NamedBy (texts i) (slots i))
    (hdisjoint : items.Pairwise fun i j => (texts i).Disjoint (texts j)) :
    NamedBy (items.flatMap texts) (items.flatMap slots) := by
  induction items with
  | nil => exact nil
  | cons i rest ih =>
    obtain ⟨hfirst, hothers⟩ := List.pairwise_cons.mp hdisjoint
    have hrest := ih (fun j hj => h j (List.mem_cons_of_mem i hj)) hothers
    refine (h i List.mem_cons_self).append hrest fun text htext hmem => ?_
    obtain ⟨j, hj, hother⟩ := List.mem_flatMap.mp hmem
    exact hfirst j hj htext hother

/-- Single values with distinct names. -/
theorem single {texts : List String} (h : texts.Nodup) {slots : List Slot}
    (hnames : (slots.map Slot.name).Sublist (texts.map fun text => ⟨text, []⟩)) :
    NamedBy texts slots := by
  have hinj : Function.Injective fun text : String => (⟨text, []⟩ : BindName) := by
    rintro text other ⟨⟩
    rfl
  refine ⟨(h.map hinj).sublist hnames, fun slot hslot => ?_⟩
  obtain ⟨text, htext, hname⟩ := List.mem_map.mp (hnames.mem (List.mem_map_of_mem hslot))
  rwa [← hname]

end NamedBy

theorem pairwise_zipIdx {α : Type} (items : List α) (k : ℕ) :
    (items.zipIdx k).Pairwise fun a b => a.2 ≠ b.2 := by
  have hplaces : ((items.zipIdx k).map Prod.snd).Nodup := by
    rw [List.zipIdx_map_snd]
    exact List.nodup_range'
  exact List.pairwise_map.mp hplaces

/-- Members have the name of their list and distinct places. -/
theorem namedBy_memberSlots (name : String) (place : List ℕ) (values : List Value) :
    NamedBy [name] (memberSlots name place values) := by
  refine ⟨?_, ?_⟩
  · rw [memberSlots, List.map_map]
    refine List.pairwise_map.mpr ((pairwise_zipIdx values 1).imp fun hne hsame => hne ?_)
    simpa using hsame
  · intro slot hslot
    obtain ⟨member, -, rfl⟩ := List.mem_map.mp hslot
    exact List.mem_singleton_self name

theorem params_rowGroups (name : String) (rows : List Value) :
    (rowGroups name rows).params = (rows.zipIdx 1).flatMap fun row =>
      memberSlots name [row.2] (row.1.members?.getD []) := by
  simp [rowGroups, Fragment.params_join, List.flatMap_map, params_group]

theorem namedBy_rowGroups (name : String) (rows : List Value) :
    NamedBy [name] (rowGroups name rows).params := by
  rw [params_rowGroups]
  refine ⟨?_, ?_⟩
  · rw [List.map_flatMap]
    refine List.nodup_flatMap.mpr ⟨fun row _ => (namedBy_memberSlots name _ _).nodup, ?_⟩
    refine (pairwise_zipIdx rows 1).imp fun {row other} hne bind hbind hother => hne ?_
    simp only [memberSlots, List.map_map, List.mem_map, Function.comp_apply] at hbind hother
    obtain ⟨member, -, rfl⟩ := hbind
    obtain ⟨member', -, hsame⟩ := hother
    simp only [BindName.mk.injEq, List.cons_append, List.cons.injEq] at hsame
    exact hsame.2.1.symm
  · intro slot hslot
    obtain ⟨row, -, hmember⟩ := List.mem_flatMap.mp hslot
    exact (namedBy_memberSlots name _ _).mem slot hmember

theorem namedBy_memberGroup (name : String) (operands : List Value) :
    NamedBy [name] (memberGroup name operands).params := by
  have hnone : NamedBy [name] [] := ⟨List.nodup_nil, by simp⟩
  unfold memberGroup
  split
  · exact hnone
  · split
    · exact hnone
    · split
      · exact namedBy_rowGroups name _
      · rw [params_group]
        exact namedBy_memberSlots name [] operands

theorem Binds.next_eq_ok {binds after : Binds} {base name : String}
    (h : binds.next base = .ok (name, after)) :
    name = base ++ "_" ++ Decimal.natText (binds.bases.count base + 1) ∧
      after = ⟨binds.columns, base :: binds.bases⟩ ∧ name ∉ binds.columns := by
  unfold Binds.next at h
  simp only at h
  split at h
  · cases h
  · next hfree =>
    cases h
    exact ⟨rfl, rfl, by simpa using hfree⟩

/-- A piece whose bind parameters have the names numbered by `bases` after those of `binds`, none of
which is the name of a column. -/
structure Drafts (binds : Binds) (bases : List String) (slots : List Slot) (after : Binds) :
    Prop where
  after_eq : after = ⟨binds.columns, bases.reverse ++ binds.bases⟩
  named : NamedBy (numberedFrom binds.bases bases) slots
  free : ∀ name ∈ numberedFrom binds.bases bases, name ∉ binds.columns

namespace Drafts

variable {binds middle after : Binds}

theorem nil (binds : Binds) : Drafts binds [] [] binds := ⟨rfl, .nil, by simp [numberedFrom]⟩

theorem next {base name : String} (h : binds.next base = .ok (name, after)) {slots : List Slot}
    (hslots : NamedBy [name] slots) : Drafts binds [base] slots after := by
  obtain ⟨rfl, rfl, hfree⟩ := Binds.next_eq_ok h
  exact ⟨rfl, hslots, by simpa [numberedFrom] using hfree⟩

theorem append {bases more : List String} {slots others : List Slot}
    (h : Drafts binds bases slots middle) (hothers : Drafts middle more others after) :
    Drafts binds (bases ++ more) (slots ++ others) after := by
  obtain ⟨rfl, hnamed, hfree⟩ := h
  obtain ⟨rfl, hnamed', hfree'⟩ := hothers
  have hall := nodup_numberedFrom binds.bases (bases ++ more)
  rw [numberedFrom_append] at hall
  refine ⟨by simp, ?_, ?_⟩
  · rw [numberedFrom_append]
    exact hnamed.append hnamed' (List.disjoint_of_nodup_append hall)
  · rw [numberedFrom_append]
    exact List.forall_mem_append.mpr ⟨hfree, hfree'⟩

end Drafts

theorem namedBy_named (name : String) (v : Value) : NamedBy [name] [.named name v] :=
  .single (List.nodup_singleton name) (List.Sublist.refl _)

theorem Predicate.drafts {p : Predicate} {binds after : Binds} {f : Fragment Slot}
    (h : p.render binds = .ok (f, after)) : Drafts binds p.bases f.params after := by
  cases p with
  | isNull column positive =>
    obtain ⟨name, -, heq⟩ := Outcome.bind_eq_ok_iff.mp h
    cases heq
    exact .nil binds
  | isTruth column positive truth =>
    obtain ⟨name, -, heq⟩ := Outcome.bind_eq_ok_iff.mp h
    cases heq
    exact .nil binds
  | compare column relation operand =>
    obtain ⟨name, -, hrest⟩ := Outcome.bind_eq_ok_iff.mp h
    obtain ⟨⟨bind, next⟩, hbind, heq⟩ := Outcome.bind_eq_ok_iff.mp hrest
    cases heq
    exact .next hbind (namedBy_named bind operand)
  | member column positive operands =>
    rw [render_member] at h
    obtain ⟨name, -, hrest⟩ := Outcome.bind_eq_ok_iff.mp h
    obtain ⟨⟨bind, next⟩, hbind, heq⟩ := Outcome.bind_eq_ok_iff.mp hrest
    cases heq
    refine .next hbind ?_
    have hmembers := namedBy_memberGroup bind operands
    cases positive <;> simpa [memberCondition] using hmembers

theorem drafts_renderPredicates {ps : List Predicate} {binds after : Binds}
    {fragments : List (Fragment Slot)} (h : renderPredicates binds ps = .ok (fragments, after)) :
    Drafts binds (ps.flatMap Predicate.bases) (fragments.flatMap (·.params)) after := by
  induction ps generalizing binds fragments with
  | nil =>
    cases h
    exact .nil _
  | cons p rest ih =>
    obtain ⟨⟨f, next⟩, hfirst, hrest⟩ := Outcome.bind_eq_ok_iff.mp h
    obtain ⟨⟨others, last⟩, hothers, heq⟩ := Outcome.bind_eq_ok_iff.mp hrest
    cases heq
    exact (Predicate.drafts hfirst).append (ih hothers)

theorem params_whereClause {α : Type} (lead : String) (fragments : List (Fragment α)) :
    (whereClause lead fragments).params = fragments.flatMap (·.params) := by
  cases fragments with
  | nil => rfl
  | cons f rest => simp [whereClause, Fragment.params_join]

theorem Page.drafts {page : Page} {binds after : Binds} {f : Fragment Slot}
    (h : page.render binds = .ok (f, after)) : Drafts binds page.bases f.params after := by
  have hboth : ∀ v v' : Value, ∀ {f : Fragment Slot},
      (binds.next "param" >>= fun x => x.2.next "param" >>= fun y =>
        .ok ((⟨"\n LIMIT ? OFFSET ?", [.named x.1 v, .named y.1 v']⟩ : Fragment Slot), y.2)) =
          .ok (f, after) → Drafts binds ["param", "param"] f.params after := by
    intro v v' f h
    obtain ⟨⟨first, next⟩, hfirst, hrest⟩ := Outcome.bind_eq_ok_iff.mp h
    obtain ⟨⟨second, last⟩, hsecond, heq⟩ := Outcome.bind_eq_ok_iff.mp hrest
    cases heq
    exact (Drafts.next hfirst (namedBy_named first v)).append
      (.next hsecond (namedBy_named second v'))
  obtain ⟨limit, offset⟩ := page
  cases limit with
  | some n => exact hboth _ _ h
  | none =>
    cases offset with
    | some n => exact hboth _ _ h
    | none =>
      cases h
      exact .nil _

theorem Selection.drafts {s : Selection} {binds after : Binds} {f : Fragment Slot}
    (h : s.render binds = .ok (f, after)) : Drafts binds s.bases f.params after := by
  obtain ⟨columns, -, hrest⟩ := Outcome.bind_eq_ok_iff.mp h
  obtain ⟨⟨fragments, middle⟩, hpredicates, hrest⟩ := Outcome.bind_eq_ok_iff.mp hrest
  obtain ⟨order, -, hrest⟩ := Outcome.bind_eq_ok_iff.mp hrest
  obtain ⟨⟨page, last⟩, hpage, heq⟩ := Outcome.bind_eq_ok_iff.mp hrest
  cases heq
  have hall := (drafts_renderPredicates hpredicates).append (Page.drafts hpage)
  simpa [params_whereClause, bases] using hall

/-- The parameters of the condition of a change are numbered, and none has the name of a column. -/
theorem Scope.drafts {scope : Scope} {binds : Binds} {f : Fragment Slot}
    (h : scope.render binds = .ok f) :
    NamedBy (numberedFrom binds.bases scope.bases) f.params ∧
      ∀ name ∈ numberedFrom binds.bases scope.bases, name ∉ binds.columns := by
  cases scope with
  | all =>
    cases h
    exact ⟨.nil, by simp [bases, numberedFrom]⟩
  | satisfying predicates =>
    obtain ⟨⟨fragments, after⟩, hpredicates, heq⟩ := Outcome.bind_eq_ok_iff.mp h
    cases heq
    obtain ⟨-, hnamed, hfree⟩ := drafts_renderPredicates hpredicates
    rw [params_whereClause]
    exact ⟨hnamed, hfree⟩
  | chosen rows =>
    obtain ⟨⟨f, after⟩, hrows, heq⟩ := Outcome.bind_eq_ok_iff.mp h
    cases heq
    obtain ⟨-, hnamed, hfree⟩ := Selection.drafts hrows
    rw [Fragment.params_append, Fragment.params_append]
    simpa [bases] using And.intro hnamed hfree

theorem checkDistinct_eq_ok_iff (columns : List String) :
    checkDistinct columns = .ok () ↔ columns.Nodup := by
  induction columns with
  | nil => simp [checkDistinct]
  | cons column rest ih =>
    by_cases h : column ∈ rest
    · simp [checkDistinct, h]
    · simp [checkDistinct, h, ih]

/-- The parameters of a row have the names of its columns. -/
theorem names_rowSlots (columns : List String) (mark : String) (row : List Value) :
    (rowSlots columns mark row).map Slot.name =
      (columns.take row.length).map fun column => ⟨column ++ mark, []⟩ := by
  induction columns generalizing row with
  | nil => simp [rowSlots]
  | cons column rest ih =>
    cases row with
    | nil => rfl
    | cons v others => simpa [rowSlots, Slot.named] using ih others

/-- The parameters of an insertion are those of its rows. -/
theorem params_insertText {α : Type} (table : String) {columns : List String}
    {rows : List (List α)} (h : columns = [] → ∀ row ∈ rows, row = []) :
    (insertText table columns rows).params = rows.flatten := by
  unfold insertText
  cases columns with
  | nil => simpa using fun row hrow => h rfl row hrow
  | cons column columns =>
    simp [Fragment.params_join, List.flatMap_map, params_group, List.flatMap_id']

/-- The names of the columns that a statement writes. -/
def Statement.columns : Statement → List String
  | .select _ => []
  | .insert _ columns _ => columns
  | .insertRow _ columns _ => columns
  | .update _ assignments _ => assignments.keys
  | .delete _ _ => []


theorem namedBy_rowSlots {columns : List String} (h : columns.Nodup) (mark : String)
    (row : List Value) :
    NamedBy (columns.map (· ++ mark)) (rowSlots columns mark row) := by
  have hmarked : Function.Injective fun column : String => column ++ mark := by
    intro column other heq
    simpa using heq
  refine .single (h.map hmarked) ?_
  rw [names_rowSlots, List.map_map]
  exact (List.take_sublist _ _).map _

/-- The rows of an insertion have no name in common. -/
theorem namedBy_rows {columns : List String} (h : columns.Nodup) (rows : List (List Value)) :
    NamedBy (rows.zipIdx.flatMap fun row => columns.map (· ++ ("_m" ++ Decimal.natText row.2)))
      (rows.zipIdx.map fun row =>
        rowSlots columns ("_m" ++ Decimal.natText row.2) row.1).flatten := by
  refine .flatMap (fun row _ => namedBy_rowSlots h _ row.1) ?_
  refine (pairwise_zipIdx rows 0).imp fun {row other} hne name hname hother => hne ?_
  obtain ⟨column, -, rfl⟩ := List.mem_map.mp hname
  obtain ⟨column', -, hsame⟩ := List.mem_map.mp hother
  exact (rowName_inj hsame).2.symm

theorem isPlainBind_bindBase (column : String) : isPlainBind (bindBase column) = true := by
  have hreplaced : ∀ (inRun : Bool) (cs : List Char), ∀ c ∈ replaceRuns inRun cs,
      isBaseSeparator c = false := by
    intro inRun cs
    induction cs generalizing inRun with
    | nil => simp [replaceRuns]
    | cons d rest ih =>
      have hmark : isBaseSeparator '_' = false := by decide
      by_cases hd : isBaseSeparator d = true
      · have hrest := ih true
        cases inRun <;> simpa [replaceRuns, hd, hmark] using hrest
      · simpa [replaceRuns, hd] using ih false
  refine List.all_eq_true.mpr fun c hc => ?_
  rw [bindBase, String.toList_ofList] at hc
  have hseparator := hreplaced false column.toList c (mem_of_mem_trimBy hc)
  simp only [isBaseSeparator, List.contains_eq_mem, decide_eq_false_iff_not] at hseparator
  simp_all

theorem isPlainBind_base (column : ColumnName) : isPlainBind column.base = true := by
  cases column with
  | named name => exact isPlainBind_bindBase name
  | _ => decide

theorem isPlainBind_bases (p : Predicate) : ∀ base ∈ p.bases, isPlainBind base = true := by
  cases p <;> simp [Predicate.bases, isPlainBind_base]

theorem Page.isPlainBind_bases (page : Page) : ∀ base ∈ page.bases, isPlainBind base = true := by
  have hparam : isPlainBind "param" = true := by decide
  unfold Page.bases
  split <;> simp [hparam]

theorem Selection.isPlainBind_bases (s : Selection) :
    ∀ base ∈ s.bases, isPlainBind base = true := by
  intro base hbase
  rcases List.mem_append.mp hbase with hbase | hbase
  · obtain ⟨p, -, hp⟩ := List.mem_flatMap.mp hbase
    exact Sql.isPlainBind_bases p base hp
  · exact s.page.isPlainBind_bases base hbase

theorem Scope.isPlainBind_bases (scope : Scope) :
    ∀ base ∈ scope.bases, isPlainBind base = true := by
  cases scope with
  | all => simp [bases]
  | satisfying predicates =>
    intro base hbase
    obtain ⟨p, -, hp⟩ := List.mem_flatMap.mp hbase
    exact Sql.isPlainBind_bases p base hp
  | chosen rows => exact rows.isPlainBind_bases

/-- Numbered names have nothing to escape. -/
theorem isPlainBind_numberedFrom {before bases : List String}
    (h : ∀ base ∈ bases, isPlainBind base = true) :
    ∀ name ∈ numberedFrom before bases, isPlainBind name = true := by
  intro name hname
  obtain ⟨base, hbase, n, -, rfl⟩ := exists_of_mem_numberedFrom hname
  have hmark : isPlainBind "_" = true := by decide
  simp [isPlainBind_append, h base hbase, hmark, isPlainBind_of_forall (natText_plain n)]

/-- The bind parameters of a draft have distinct names. A name that is escaped is the name of a
written column or made from it. -/
theorem Statement.exists_namedBy_draft {s : Statement} {f : Fragment Slot} (h : s.draft = .ok f) :
    ∃ texts, NamedBy texts f.params ∧ ((∀ column ∈ s.columns, isPlainBind column = true) →
      ∀ text ∈ texts, isPlainBind text = true) := by
  cases s with
  | select selection =>
    obtain ⟨⟨f, after⟩, hselection, heq⟩ := Outcome.bind_eq_ok_iff.mp h
    cases heq
    exact ⟨_, (Selection.drafts hselection).named, fun _ =>
      isPlainBind_numberedFrom selection.isPlainBind_bases⟩
  | insert table columns rows =>
    obtain ⟨⟨⟩, hdistinct, heq⟩ := Outcome.bind_eq_ok_iff.mp h
    cases heq
    have hnodup := (checkDistinct_eq_ok_iff columns).mp hdistinct
    rw [params_insertText table fun hnone slots hslots => by
      obtain ⟨row, -, rfl⟩ := List.mem_map.mp hslots
      simp [hnone, rowSlots]]
    refine ⟨_, namedBy_rows hnodup rows, fun hplain text htext => ?_⟩
    obtain ⟨row, -, hmarked⟩ := List.mem_flatMap.mp htext
    obtain ⟨column, hcolumn, rfl⟩ := List.mem_map.mp hmarked
    have hmark : isPlainBind "_m" = true := by decide
    simp [isPlainBind_append, hplain column hcolumn, hmark,
      isPlainBind_of_forall (natText_plain row.2)]
  | insertRow table columns row =>
    obtain ⟨⟨⟩, hdistinct, heq⟩ := Outcome.bind_eq_ok_iff.mp h
    cases heq
    have hnodup := (checkDistinct_eq_ok_iff columns).mp hdistinct
    rw [params_insertText table fun hnone slots hslots => by
      simp [List.mem_singleton.mp hslots, hnone, rowSlots], List.flatten_singleton]
    refine ⟨_, namedBy_rowSlots hnodup "" row, fun hplain text htext => ?_⟩
    obtain ⟨column, hcolumn, rfl⟩ := List.mem_map.mp htext
    simpa using hplain column hcolumn
  | update table assignments scope =>
    obtain ⟨⟨⟩, hdistinct, hrest⟩ := Outcome.bind_eq_ok_iff.mp h
    obtain ⟨condition, hcondition, heq⟩ := Outcome.bind_eq_ok_iff.mp hrest
    cases heq
    have hnodup := (checkDistinct_eq_ok_iff assignments.keys).mp hdistinct
    obtain ⟨hnamed, hfree⟩ := Scope.drafts hcondition
    have hassigned : NamedBy assignments.keys
        (Fragment.join ", " (assignments.map assignment)).params := by
      refine .single hnodup ?_
      simp [Fragment.params_join, assignment, placeholder, Slot.named, Fields.keys,
        List.flatMap_map, ← List.map_eq_flatMap, Function.comp_def]
    have hall := hassigned.append hnamed fun name hcolumn hname => hfree name hname hcolumn
    refine ⟨_, by simpa using hall, fun hplain text htext => ?_⟩
    rcases List.mem_append.mp htext with hcolumn | hname
    · exact hplain text hcolumn
    · exact isPlainBind_numberedFrom scope.isPlainBind_bases text hname
  | delete table scope =>
    obtain ⟨condition, hcondition, heq⟩ := Outcome.bind_eq_ok_iff.mp h
    cases heq
    obtain ⟨hnamed, -⟩ := Scope.drafts hcondition
    exact ⟨_, hnamed, fun _ => isPlainBind_numberedFrom scope.isPlainBind_bases⟩

/-- Refuses the first name under which no value is kept. -/
def checkKept (kept : BindName → BindName) (names : List BindName) : Outcome Unit :=
  match names.find? fun name => kept name ≠ name with
  | some name => .error (.missingBind name.text)
  | none => .ok ()

section

variable {kept : BindName → BindName} {slots : List Slot}

theorem exists_keptValue_iff (name : BindName) :
    (∃ v, keptValue kept slots name = .ok v) ↔ ∃ slot ∈ slots, kept slot.name = name := by
  have hsome : (slots.reverse.find? fun slot => kept slot.name = name).isSome ↔
      ∃ slot ∈ slots, kept slot.name = name := by simp
  rw [← hsome, keptValue]
  cases slots.reverse.find? fun slot => kept slot.name = name <;> simp

/-- No value is kept under a name that escaping changes. -/
theorem keptValue_of_escaped (hidem : ∀ name, kept (kept name) = kept name) {name : BindName}
    (h : kept name ≠ name) : keptValue kept slots name = .error (.missingBind name.text) := by
  have hnone : (slots.reverse.find? fun slot => kept slot.name = name) = none := by
    rw [List.find?_eq_none]
    intro slot _ hsame
    have hname : kept slot.name = name := by simpa using hsame
    exact h (hname ▸ hidem slot.name)
  rw [keptValue, hnone]

/-- Distinct names that are all kept give their own values. -/
theorem keptValue_eq (hnames : (slots.map Slot.name).Nodup)
    (hkept : ∀ slot ∈ slots, kept slot.name = slot.name) {slot : Slot} (hslot : slot ∈ slots) :
    keptValue kept slots slot.name = .ok slot.value := by
  unfold keptValue
  cases hfind : slots.reverse.find? fun other => kept other.name = slot.name with
  | none =>
    have hother := List.find?_eq_none.mp hfind slot (List.mem_reverse.mpr hslot)
    exact absurd (by simpa using hkept slot hslot) hother
  | some found =>
    have hmem : found ∈ slots := List.mem_reverse.mp (List.mem_of_find?_eq_some hfind)
    have hname : kept found.name = slot.name := by simpa using List.find?_some hfind
    rw [hkept found hmem] at hname
    rw [List.inj_on_of_nodup_map hnames hmem hslot hname]

/-- Every placeholder has its own value, unless a name is not kept. -/
theorem lookUp_eq (hnames : (slots.map Slot.name).Nodup)
    (hidem : ∀ name, kept (kept name) = kept name) :
    lookUp kept slots =
      (checkKept kept (slots.map Slot.name)).map fun _ => slots.map Slot.value := by
  rw [checkKept, List.find?_map]
  cases hfind : slots.find? ((fun name => kept name ≠ name) ∘ Slot.name) with
  | none =>
    have hkept : ∀ slot ∈ slots, kept slot.name = slot.name := by
      simpa using List.find?_eq_none.mp hfind
    exact Outcome.mapM_eq_ok_of_forall fun slot hslot => keptValue_eq hnames hkept hslot
  | some escaped =>
    obtain ⟨hescaped, before, after, hslots, hbefore⟩ := List.find?_eq_some_iff_append.mp hfind
    refine Outcome.mapM_eq_error hslots (fun slot hslot => ?_)
      (keptValue_of_escaped hidem (by simpa using hescaped))
    have hmem : slot ∈ slots := by
      rw [hslots]
      exact List.mem_append_left _ hslot
    exact (exists_keptValue_iff slot.name).mpr ⟨slot, hmem, by simpa using hbefore slot hslot⟩

end

theorem Statement.keptName_idem (s : Statement) (name : BindName) :
    s.keptName (s.keptName name) = s.keptName name := by
  unfold keptName
  split
  · rfl
  · exact escaped_of_isPlainBind (isPlainBind_escaped name)

/-- A written statement has the values of its draft, unless the name of a column is escaped. -/
theorem Statement.render_eq (s : Statement) :
    s.render = s.draft >>= fun draft => s.predicates.forM Predicate.check >>= fun _ =>
      (checkKept s.keptName (draft.params.map Slot.name)).map fun _ => draft.values := by
  unfold render
  cases hdraft : s.draft with
  | error f => rfl
  | ok draft =>
    obtain ⟨texts, hnamed, -⟩ := exists_namedBy_draft hdraft
    simp only [Outcome.ok_bind, lookUp_eq hnamed.nodup s.keptName_idem]
    cases s.predicates.forM Predicate.check with
    | error f => rfl
    | ok u => cases checkKept s.keptName (draft.params.map Slot.name) <;> rfl

/-- A rendered statement has the values of its draft. -/
theorem Statement.exists_draft_of_render {s : Statement} {f : Fragment Value}
    (h : s.render = .ok f) : ∃ draft, s.draft = .ok draft ∧ f = draft.values := by
  rw [render_eq] at h
  obtain ⟨draft, hdraft, hrest⟩ := Outcome.bind_eq_ok_iff.mp h
  obtain ⟨-, -, hkept⟩ := Outcome.bind_eq_ok_iff.mp hrest
  obtain ⟨-, -, rfl⟩ := Outcome.map_eq_ok_iff.mp hkept
  exact ⟨draft, hdraft, rfl⟩

/-- A statement whose columns have nothing to escape in their names is rendered as it is drafted. -/
theorem Statement.render_of_plain {s : Statement}
    (h : ∀ column ∈ s.columns, isPlainBind column = true) :
    s.render = s.draft >>= fun draft =>
      s.predicates.forM Predicate.check >>= fun _ => .ok draft.values := by
  rw [render_eq]
  cases hdraft : s.draft with
  | error f => rfl
  | ok draft =>
    obtain ⟨texts, hnamed, hplain⟩ := exists_namedBy_draft hdraft
    have hkept : checkKept s.keptName (draft.params.map Slot.name) = .ok () := by
      have hnone : ((draft.params.map Slot.name).find? fun name => s.keptName name ≠ name) =
          none := by
        rw [List.find?_eq_none]
        intro name hname
        obtain ⟨slot, hslot, rfl⟩ := List.mem_map.mp hname
        have hescaped := escaped_of_isPlainBind (hplain h _ (hnamed.mem slot hslot))
        unfold keptName
        split <;> simp [hescaped]
      unfold checkKept
      rw [hnone]
    simp only [Outcome.ok_bind, hkept, Outcome.map_ok]

end SqlBridge.Sql
