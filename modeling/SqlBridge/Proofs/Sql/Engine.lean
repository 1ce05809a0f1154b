import Mathlib.Algebra.Ring.Int.Defs
import Mathlib.Data.List.Basic
import SqlBridge.Sql.Statement

/-!
Evaluation of selections on a table. The rows that satisfy every predicate are selected, the order
arranges them, and an aggregate replaces them by one row. The page applies to the rows of the
result, so for an aggregate it includes the one row or none.
-/

namespace SqlBridge.Sql

/-- A row of a table or of a result. -/
abbrev Row := Fields Value

/-- The number of rows skipped by a page: none under a negative offset. -/
def Page.skipped (page : Page) : ℕ := (page.offset.getD 0).toNat

/-- The rows of a page. Without a limit, or with a negative one, they extend to the end. -/
def Page.cut {α : Type} (page : Page) (rows : List α) : List α :=
  match page.limit with
  | some n => if n < 0 then rows.drop page.skipped else (rows.drop page.skipped).take n.toNat
  | none => rows.drop page.skipped

/-- The number of rows of a page, for a given number of rows. -/
def Page.share (page : Page) (count : ℕ) : ℕ :=
  match page.limit with
  | some n => if n < 0 then count - page.skipped else min n.toNat (count - page.skipped)
  | none => count - page.skipped

/-- Whether a page includes the first row. -/
def Page.takesFirst (page : Page) : Prop := page.skipped = 0 ∧ page.limit ≠ some 0

instance (page : Page) : Decidable page.takesFirst := by
  unfold Page.takesFirst
  infer_instance

namespace Page

theorem share_le (page : Page) (count : ℕ) : page.share count ≤ count := by
  unfold share
  split
  · split_ifs <;> omega
  · omega

theorem share_pos {page : Page} (h : page.takesFirst) {count : ℕ} (hcount : 0 < count) :
    0 < page.share count := by
  obtain ⟨hskipped, hlimit⟩ := h
  unfold share
  split
  · next n heq =>
    have hn : n ≠ 0 := fun hzero => hlimit (heq.trans (congrArg some hzero))
    split_ifs <;> omega
  · omega

theorem share_lt {page : Page} (h : ¬page.takesFirst) {count : ℕ} (hcount : 0 < count) :
    page.share count < count := by
  unfold takesFirst at h
  unfold share
  split
  · next n heq =>
    have hcases : 0 < page.skipped ∨ n = 0 := by
      by_contra hnot
      exact h ⟨by omega, by rw [heq, Ne, Option.some.injEq]; omega⟩
    split_ifs <;> omega
  · next heq =>
    have hskipped : page.skipped ≠ 0 := fun hzero => h ⟨hzero, by simp [heq]⟩
    omega

variable {α : Type} (page : Page) (rows : List α)

theorem cut_sublist : (page.cut rows).Sublist rows := by
  have hrest := List.drop_sublist page.skipped rows
  unfold cut
  split
  · split_ifs
    · exact hrest
    · exact (List.take_sublist _ _).trans hrest
  · exact hrest

theorem length_cut : (page.cut rows).length = page.share rows.length := by
  unfold cut share
  split
  · split_ifs
    · exact List.length_drop
    · rw [List.length_take, List.length_drop]
  · exact List.length_drop

theorem cut_eq_self_iff : page.cut rows = rows ↔ page.share rows.length = rows.length := by
  rw [← length_cut]
  exact ⟨congrArg List.length, (page.cut_sublist rows).eq_of_length⟩

theorem cut_eq_nil_iff : page.cut rows = [] ↔ page.share rows.length = 0 := by
  rw [← length_cut, List.length_eq_zero_iff]

/-- Without limit and offset a page includes all rows. -/
theorem cut_whole : (⟨none, none⟩ : Page).cut rows = rows := rfl

/-- For a single row a page includes that row or none. -/
theorem cut_singleton (row : α) : page.cut [row] = if page.takesFirst then [row] else [] := by
  split_ifs with h
  · have hpos : 0 < page.share 1 := share_pos h Nat.one_pos
    have hle := page.share_le 1
    exact (page.cut_eq_self_iff [row]).mpr (by rw [List.length_singleton]; omega)
  · have hlt : page.share 1 < 1 := share_lt h Nat.one_pos
    exact (page.cut_eq_nil_iff [row]).mpr (by rw [List.length_singleton]; omega)

/-- A page that includes the first row includes some of any rows, and any other page never includes
all of them. So the page of a count agrees with the count of the page exactly when the page includes
all rows or none. -/
theorem count_agrees_iff :
    (if page.takesFirst then rows.length else 0) = (page.cut rows).length ↔
      page.cut rows = rows ∨ page.cut rows = [] := by
  rw [cut_eq_self_iff, cut_eq_nil_iff, length_cut]
  have hle := page.share_le rows.length
  rcases Nat.eq_zero_or_pos rows.length with hzero | hpos
  · split_ifs <;> omega
  · split_ifs with h
    · have hsome := share_pos h hpos
      omega
    · have hless := share_lt h hpos
      omega

end Page

/-- Whether a column of rows holds whole numbers and nulls only. -/
def IsWhole (name : String) (rows : List Row) : Prop :=
  ∀ row ∈ rows, Value.field row name = .null ∨ ∃ n, Value.field row name = .int n

/-- The whole number of a row in a column, zero for null. -/
def amount (name : String) (row : Row) : Int :=
  match Value.field row name with
  | .int n => n
  | _ => 0

def amounts (name : String) (rows : List Row) : Int := (rows.map (amount name)).sum

/-- The evaluation of statements: the rows that satisfy a predicate, the arrangement by an order,
and the total of a column, which is null when there are no numbers. -/
structure Engine where
  holds : Predicate → Row → Bool
  arrange : List Order → List Row → List Row
  perm_arrange : ∀ orders rows, (arrange orders rows).Perm rows
  total : ColumnName → List Row → Value
  total_whole : ∀ name rows, IsWhole name rows →
    ((∀ row ∈ rows, Value.field row name = .null) → total (.named name) rows = .null) ∧
      ((∃ row ∈ rows, Value.field row name ≠ .null) →
        total (.named name) rows = .int (amounts name rows))

namespace Engine

variable (engine : Engine) (content : List Row)

/-- The rows that satisfy every predicate of a selection. -/
def kept (s : Selection) : List Row :=
  content.filter fun row => s.predicates.all fun p => engine.holds p row

/-- The rows that satisfy every predicate, in the order of the selection. -/
def arranged (s : Selection) : List Row := engine.arrange s.order (engine.kept content s)

/-- The rows of a result before its page is applied. -/
def projected (s : Selection) : List Row :=
  match s.projection with
  | .everything => engine.arranged content s
  | .rowId => (engine.arranged content s).map fun row => [("rowid", Value.field row "rowid")]
  | .count => [[("count", .int (engine.kept content s).length)]]
  | .sum column => [[("sum", engine.total column (engine.kept content s))]]

/-- The result of a selection. -/
def read (s : Selection) : List Row := s.page.cut (engine.projected content s)

end Engine

end SqlBridge.Sql
