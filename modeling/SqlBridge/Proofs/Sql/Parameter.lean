import SqlBridge.Proofs.Sql.Placeholder

/-!
Parameter names of statements. A statement takes one name for each operand other than null and truth
values, and two for its page, numbered by their base. The changed columns of a statement do not
change the text of its condition: with them the same text and parameters are rendered, or the first
name that equals a column is a clash. The names taken are determined by the predicates and the page.
-/

namespace SqlBridge

namespace Value

/-- Whether a value is a number or a text. -/
def isScalar : Value → Bool
  | int _ => true
  | double _ => true
  | text _ => true
  | _ => false

theorem rowsOf?_eq_none {items : List Value} (h : ∀ v ∈ items, v.isScalar = true) :
    Sql.rowsOf? items = none := by
  cases items with
  | nil => rfl
  | cons first rest =>
    have hfirst := h first List.mem_cons_self
    cases first <;> simp_all [isScalar, Sql.rowsOf?]

end Value

namespace Sql

/-- The numbered names of bases in order, after those of `before`. -/
def numberedFrom (before : List String) : List String → List String
  | [] => []
  | base :: rest =>
    (base ++ "_" ++ Decimal.natText (before.count base + 1)) :: numberedFrom (base :: before) rest

theorem numberedFrom_append (before bases more : List String) :
    numberedFrom before (bases ++ more) =
      numberedFrom before bases ++ numberedFrom (bases.reverse ++ before) more := by
  induction bases generalizing before with
  | nil => rfl
  | cons base rest ih => simp [numberedFrom, ih]

/-- Refuses the first name that equals a changed column. -/
def checkNames (columns : List String) : List String → Outcome Unit
  | [] => .ok ()
  | name :: rest =>
    if columns.contains name then .error (.bindClash name) else checkNames columns rest

theorem checkNames_append (columns names more : List String) :
    checkNames columns (names ++ more) =
      checkNames columns names >>= fun _ => checkNames columns more := by
  induction names with
  | nil => rfl
  | cons name rest ih =>
    by_cases h : columns.contains name = true
    · simp only [List.cons_append, checkNames, if_pos h, Outcome.error_bind]
    · simp only [List.cons_append, checkNames, if_neg h, ih]

theorem checkNames_eq_ok_iff (columns names : List String) :
    checkNames columns names = .ok () ↔ ∀ name ∈ names, name ∉ columns := by
  induction names with
  | nil => simp [checkNames]
  | cons name rest ih =>
    by_cases h : name ∈ columns
    · simp [checkNames, h]
    · simp [checkNames, h, ih]

/-- Without changed columns every name is free. -/
theorem Binds.next_free (before : List String) (base : String) :
    (⟨[], before⟩ : Binds).next base =
      .ok (base ++ "_" ++ Decimal.natText (before.count base + 1), ⟨[], base :: before⟩) := by
  simp [Binds.next]

/-- A piece that takes one name for each of `bases`. Without changed columns it is rendered if its
parts are; with them it is rendered in the same way after its names have been checked. -/
def Takes {α : Type} (bases : List String) (piece : Binds → Outcome (α × Binds)) : Prop :=
  ∀ before a binds, piece ⟨[], before⟩ = .ok (a, binds) →
    binds = ⟨[], bases.reverse ++ before⟩ ∧
      ∀ columns, piece ⟨columns, before⟩ =
        (checkNames columns (numberedFrom before bases)).map
          fun _ => (a, ⟨columns, bases.reverse ++ before⟩)

namespace Takes

variable {α β : Type}

theorem pure (a : α) : Takes [] fun binds => .ok (a, binds) := by
  intro before b binds h
  cases h
  exact ⟨rfl, fun columns => rfl⟩

theorem next (base : String) : Takes [base] fun binds => binds.next base := by
  intro before name binds h
  simp only [Binds.next_free] at h
  cases h
  refine ⟨rfl, fun columns => ?_⟩
  simp only [Binds.next, numberedFrom, checkNames]
  split
  · rfl
  · rfl

/-- A part that takes no name, whose failures are independent of the columns. -/
theorem part {bases : List String} (o : Outcome α) {piece : α → Binds → Outcome (β × Binds)}
    (h : ∀ a, Takes bases (piece a)) : Takes bases fun binds => o >>= fun a => piece a binds := by
  intro before b binds heq
  cases o with
  | ok a => exact h a before b binds heq
  | error f => simp at heq

/-- The names of pieces in sequence are taken in sequence. -/
theorem andThen {bases more : List String} {piece : Binds → Outcome (α × Binds)}
    {rest : α → Binds → Outcome (β × Binds)} (hpiece : Takes bases piece)
    (hrest : ∀ a, Takes more (rest a)) :
    Takes (bases ++ more) fun binds => piece binds >>= fun x => rest x.1 x.2 := by
  intro before b binds heq
  obtain ⟨⟨a, middle⟩, hfirst, hsecond⟩ := Outcome.bind_eq_ok_iff.mp heq
  obtain ⟨rfl, hcolumns⟩ := hpiece before a middle hfirst
  obtain ⟨rfl, hmore⟩ := hrest a _ b binds hsecond
  have hreverse : (bases ++ more).reverse ++ before =
      more.reverse ++ (bases.reverse ++ before) := by simp
  refine ⟨by rw [hreverse], fun columns => ?_⟩
  simp only [hcolumns columns, numberedFrom_append, checkNames_append, hreverse]
  cases checkNames columns (numberedFrom before bases) with
  | error f => rfl
  | ok u => simp [hmore columns]

end Takes

/-- The bases of the names taken by a predicate. -/
def Predicate.bases : Predicate → List String
  | .isNull _ _ => []
  | .isTruth _ _ _ => []
  | .compare column _ _ => [column.base]
  | .member column _ _ => [column.base]

def Page.bases (page : Page) : List String :=
  match page.limit, page.offset with
  | none, none => []
  | _, _ => ["param", "param"]

def Selection.bases (s : Selection) : List String :=
  s.predicates.flatMap Predicate.bases ++ s.page.bases

/-- The bases of the names taken by the condition of a change. -/
def Scope.bases : Scope → List String
  | .all => []
  | .satisfying predicates => predicates.flatMap Predicate.bases
  | .chosen rows => rows.bases

/-- The text of a membership; an exclusion is between parentheses. -/
def memberCondition {α : Type} (name : String) (positive : Bool) (members : Fragment α) :
    Fragment α :=
  if positive then Fragment.ofText (name ++ " IN ") ++ members
  else Fragment.ofText ("(" ++ name ++ " NOT IN ") ++ members ++ Fragment.ofText ")"

theorem values_memberCondition (name : String) (positive : Bool) (members : Fragment Slot) :
    (memberCondition name positive members).values =
      memberCondition name positive members.values := by
  cases positive <;> simp [memberCondition]

theorem Predicate.render_member (binds : Binds) (column : ColumnName) (positive : Bool)
    (operands : List Value) :
    (Predicate.member column positive operands).render binds =
      column.render >>= fun name => binds.next column.base >>= fun x =>
        .ok (memberCondition name positive (memberGroup x.1 operands), x.2) := by
  cases positive with
  | true => rfl
  | false => rfl

theorem Predicate.takes (p : Predicate) : Takes p.bases fun binds => p.render binds := by
  cases p with
  | isNull column positive => exact Takes.part column.render fun name => Takes.pure _
  | isTruth column positive truth => exact Takes.part column.render fun name => Takes.pure _
  | compare column relation operand =>
    exact Takes.part column.render fun name =>
      (Takes.next column.base).andThen fun bind =>
        Takes.pure (Fragment.ofText (name ++ " " ++ relation.symbol ++ " ")
          ++ placeholder (Slot.named bind operand))
  | member column positive operands =>
    simp only [Predicate.render_member]
    exact Takes.part column.render fun name =>
      (Takes.next column.base).andThen fun bind =>
        Takes.pure (memberCondition name positive (memberGroup bind operands))

theorem takes_renderPredicates (predicates : List Predicate) :
    Takes (predicates.flatMap Predicate.bases) fun binds => renderPredicates binds predicates := by
  induction predicates with
  | nil => exact Takes.pure []
  | cons p rest ih =>
    have hrest : ∀ fragment : Fragment Slot, Takes (rest.flatMap Predicate.bases) fun binds =>
        renderPredicates binds rest >>= fun x => .ok (fragment :: x.1, x.2) := by
      intro fragment
      simpa using ih.andThen fun fragments => Takes.pure (fragment :: fragments)
    exact p.takes.andThen hrest

theorem Page.takes (page : Page) : Takes page.bases fun binds => page.render binds := by
  obtain ⟨limit, offset⟩ := page
  have hpage : ∀ f : String → String → Fragment Slot, Takes ["param", "param"] fun binds =>
      binds.next "param" >>= fun x => x.2.next "param" >>= fun y => .ok (f x.1 y.1, y.2) := by
    intro f
    have hsecond : ∀ first : String, Takes ["param"] fun binds =>
        binds.next "param" >>= fun y => .ok (f first y.1, y.2) := fun first =>
      (Takes.next "param").andThen fun second => Takes.pure (f first second)
    exact (Takes.next "param").andThen hsecond
  cases limit with
  | none =>
    cases offset with
    | none => exact Takes.pure _
    | some m => exact hpage fun first second => ⟨_, [.named first _, .named second _]⟩
  | some n => exact hpage fun first second => ⟨_, [.named first _, .named second _]⟩

theorem Selection.takes (s : Selection) : Takes s.bases fun binds => s.render binds := by
  have hpage : ∀ lead : Fragment Slot, Takes s.page.bases fun binds =>
      s.page.render binds >>= fun x => .ok (lead ++ x.1, x.2) := by
    intro lead
    have h := s.page.takes.andThen fun page => Takes.pure (lead ++ page)
    simpa using h
  exact Takes.part s.projection.render fun projection =>
    (takes_renderPredicates s.predicates).andThen fun predicates =>
      Takes.part (orderClause s.order) fun order =>
        hpage (Fragment.ofText ("SELECT " ++ projection ++ " \nFROM " ++ identifier s.table)
          ++ whereClause " \nWHERE " predicates ++ Fragment.ofText order)

end Sql

end SqlBridge
