import Mathlib.Logic.Relation
import SqlBridge.Proofs.Query.Fold
import SqlBridge.Proofs.Query.Removal

/-!
Reworded queries. Rewordings of a level add or remove a field or an operator that is not recognised,
replace an operator by its synonym, put a single member into a list, spell out an order, add or
remove a falsy order or nested query, and move the keys that are not columns. A query reworded at
any levels, any number of times, compiles to the same criteria, or fails alike.
-/

namespace SqlBridge

/-- Traversals of items with equal outcomes are equal. -/
theorem Outcome.mapM_eq_of_map_eq {α β : Type} {g : α → Outcome β} {items others : List α}
    (h : items.map g = others.map g) : items.mapM g = others.mapM g := by
  have hmap : ∀ items : List α, items.mapM g = (items.map g).mapM id := by
    intro items
    rw [List.mapM_map]
    rfl
  rw [hmap, hmap, h]

theorem lookup?_append (name : String) (es more : List (Value × Value)) :
    lookup? name (es ++ more) = (lookup? name es).or (lookup? name more) := by
  induction es with
  | nil => rfl
  | cons entry rest ih =>
    obtain ⟨key, v⟩ := entry
    cases key with
    | text s =>
      by_cases hname : s = name
      · simp [lookup?, hname]
      · simp [lookup?, hname, ih]
    | _ => simpa [lookup?] using ih

namespace Criteria

open Sql

/-- One rewording of the condition of a column. -/
inductive ConditionReworded : Fields Value → Fields Value → Prop
  | ignored {before after : Fields Value} {key : String} {operand : Value}
    (hkey : Operator.ofText? key = none) :
    ConditionReworded (before ++ (key, operand) :: after) (before ++ after)
  | renamed {before after : Fields Value} {key other : String} {operand : Value}
    {operator : Operator} (hkey : Operator.ofText? key = some operator)
    (hother : Operator.ofText? other = some operator) (hnew : other ∉ (before ++ after).keys) :
    ConditionReworded (before ++ (key, operand) :: after) (before ++ (other, operand) :: after)
  | single {before after : Fields Value} {key : String} {operand : Value} {positive : Bool}
    (hkey : Operator.ofText? key = some (.membership positive))
    (hoperand : operand.isContainer = false) :
    ConditionReworded (before ++ (key, operand) :: after)
      (before ++ (key, .list [operand]) :: after)

/-- One rewording of the entries of an order. -/
inductive OrderReworded : List Value → List Value → Prop
  | ascending {before after : List Value} {name : String} :
    OrderReworded (before ++ .text name :: after)
      (before ++ .list [.text name, .text "asc"] :: after)
  | direction {before after : List Value} {entry other name : Value} {said meant : String}
    (hentry : entry.isText = false) (hsaid : entry.members? = some [name, .text said])
    (hother : other.isText = false) (hmeant : other.members? = some [name, .text meant])
    (h : isDescending (.text said) = isDescending (.text meant)) :
    OrderReworded (before ++ entry :: after) (before ++ other :: after)

/-- One rewording of a level, apart from its nested query. The names of a mapping are distinct. -/
inductive LevelReworded : List (Value × Value) → List (Value × Value) → Prop
  | ignored {before after : List (Value × Value)} {name v : Value}
    (hname : isShapingKey name = false) (hv : v.object? = none) :
    LevelReworded (before ++ (name, v) :: after) (before ++ after)
  | condition {before after : List (Value × Value)} {name : Value}
    {conditions others : Fields Value} (hname : isShapingKey name = false)
    (h : ConditionReworded conditions others) :
    LevelReworded (before ++ (name, .object conditions) :: after)
      (before ++ (name, .object others) :: after)
  | order {before after : List (Value × Value)} {v other : Value} {entries others : List Value}
    (hv : v.members? = some entries) (hother : other.members? = some others)
    (h : OrderReworded entries others) (honce : lookup? "orderBy" (before ++ after) = none) :
    LevelReworded (before ++ (.text "orderBy", v) :: after)
      (before ++ (.text "orderBy", other) :: after)
  | void {before after : List (Value × Value)} {name : String} {v : Value}
    (hname : name = "where" ∨ name = "orderBy") (hv : v.truthy = false)
    (honce : lookup? name (before ++ after) = none) :
    LevelReworded (before ++ (.text name, v) :: after) (before ++ after)
  | moved {before after before' after' : List (Value × Value)} {name : String} {v : Value}
    (hname : name ∈ shapingKeys) (hrest : before ++ after = before' ++ after')
    (honce : lookup? name (before ++ after) = none) :
    LevelReworded (before ++ (.text name, v) :: after) (before' ++ (.text name, v) :: after')

/-- One rewording of a query, at its own level or at a level below it. -/
inductive Reworded : Value → Value → Prop
  | level {query other : Value} {es others : List (Value × Value)} (h : entries query = .ok es)
    (hother : entries other = .ok others) (hlevel : LevelReworded es others) :
    Reworded query other
  | nested {query other inner inner' : Value} {before after : List (Value × Value)}
    (h : entries query = .ok (before ++ (.text "where", inner) :: after))
    (hother : entries other = .ok (before ++ (.text "where", inner') :: after))
    (honce : lookup? "where" (before ++ after) = none) (hinner : Reworded inner inner') :
    Reworded query other

/-- The criteria extended by the nested query of a level, if there is one. -/
def under (c : Criteria) : Option Value → Outcome Criteria
  | some nested => c.compile nested
  | none => .ok c

/-- The result of compiling a mapping as a function of its level. -/
theorem compile_of_entries {query : Value} {es : List (Value × Value)}
    (h : entries query = .ok es) (c : Criteria) :
    c.compile query = c.shape (Level.ofEntries es) >>= fun shaped =>
      shaped.under (Level.ofEntries es).nested >>= fun inner =>
        inner.constrain (Level.ofEntries es) := by
  cases hne : query.truthy with
  | true =>
    rw [compile_eq c query hne, h, Outcome.ok_bind]
    cases hnested : (Level.ofEntries es).nested <;> rfl
  | false =>
    have hes : es = [] := by
      cases query <;> simp_all [entries, Value.truthy, entriesFrom]
    rw [compile_void c query hne, hes]
    simp [shape, constrain, under, Level.ofEntries, lookup?, fieldsPredicates]

/-- Levels with the same limit, offset, order and predicates. -/
structure Level.Agrees (level other : Level) : Prop where
  limit : level.limit = other.limit
  offset : level.offset = other.offset
  orders : level.orders = other.orders
  nested : ∀ c : Criteria, c.under level.nested = c.under other.nested
  predicates : level.predicates = other.predicates

/-- Queries whose levels agree compile alike. -/
theorem compile_eq_of_agrees {query other : Value} {es others : List (Value × Value)}
    (h : entries query = .ok es) (hother : entries other = .ok others)
    (hagrees : (Level.ofEntries es).Agrees (Level.ofEntries others)) (c : Criteria) :
    c.compile query = c.compile other := by
  have hconstrain : (fun inner : Criteria => inner.constrain (Level.ofEntries es)) =
      fun inner => inner.constrain (Level.ofEntries others) := by
    funext inner
    rw [constrain_eq, constrain_eq, hagrees.predicates]
  rw [compile_of_entries h, compile_of_entries hother, shape_eq, shape_eq, hagrees.limit,
    hagrees.offset, hagrees.orders, hconstrain]
  simp only [hagrees.nested]

/-- The fields of a mapping that are columns. -/
def columnsOf (es : List (Value × Value)) : List (Value × Value) :=
  es.filter fun (name, _) => !isShapingKey name

theorem lookup?_cons_of_column {name : Value} (hname : isShapingKey name = false) {key : String}
    (hkey : key ∈ shapingKeys) (v : Value) (es : List (Value × Value)) :
    lookup? key ((name, v) :: es) = lookup? key es := by
  cases name with
  | text s =>
    have hne : s ≠ key := by
      rintro rfl
      rw [isShapingKey, List.contains_iff_mem.mpr hkey] at hname
      cases hname
    simp [lookup?, hne]
  | _ => rfl

/-- A column does not change the shape of its level. -/
theorem ofEntries_column {name : Value} (hname : isShapingKey name = false) (v : Value)
    (before after : List (Value × Value)) :
    Level.ofEntries (before ++ (name, v) :: after) =
      { Level.ofEntries (before ++ after) with
        fields := columnsOf before ++ (name, v) :: columnsOf after } := by
  have hlookup : ∀ key ∈ shapingKeys,
      lookup? key (before ++ (name, v) :: after) = lookup? key (before ++ after) := by
    intro key hkey
    rw [lookup?_append, lookup?_append, lookup?_cons_of_column hname hkey]
  have hfields : columnsOf (before ++ (name, v) :: after) =
      columnsOf before ++ (name, v) :: columnsOf after := by
    simp [columnsOf, hname]
  unfold Level.ofEntries
  rw [hlookup "limit" (by decide), hlookup "offset" (by decide), hlookup "orderBy" (by decide),
    hlookup "where" (by decide)]
  exact congrArg _ hfields

/-- A key that is not a column changes the shape of its level and keeps the columns. -/
theorem ofEntries_shaping {name : String} (hname : name ∈ shapingKeys) (v : Value)
    {before after : List (Value × Value)} (honce : lookup? name (before ++ after) = none) :
    Level.ofEntries (before ++ (.text name, v) :: after) =
      ⟨if name = "limit" then some v else lookup? "limit" (before ++ after),
        if name = "offset" then some v else lookup? "offset" (before ++ after),
        if name = "orderBy" then some v else lookup? "orderBy" (before ++ after),
        if name = "where" then some v else lookup? "where" (before ++ after),
        columnsOf (before ++ after)⟩ := by
  have hlookup : ∀ key, lookup? key (before ++ (.text name, v) :: after) =
      if name = key then some v else lookup? key (before ++ after) := by
    intro key
    rw [lookup?_append] at honce ⊢
    rw [lookup?_append, lookup?]
    by_cases hkey : name = key
    · rw [if_pos hkey, if_pos hkey, ← hkey, (Option.or_eq_none_iff.mp honce).1, Option.none_or]
    · rw [if_neg hkey, if_neg hkey]
  have hfields : columnsOf (before ++ (.text name, v) :: after) = columnsOf (before ++ after) := by
    have hshaping : isShapingKey (.text name) = true := List.contains_iff_mem.mpr hname
    simp [columnsOf, hshaping]
  unfold Level.ofEntries
  simp only [hlookup]
  exact congrArg _ hfields

/-- The predicates of a level are determined by the outcomes of its demands. -/
theorem predicates_eq_of_outcomes {level other : Level}
    (h : level.demands.map Demand.predicate = other.demands.map Demand.predicate) :
    level.predicates = other.predicates := by
  rw [predicates_eq_mapM, predicates_eq_mapM, Outcome.mapM_eq_of_map_eq h]

theorem ConditionReworded.outcomes {conditions others : Fields Value}
    (h : ConditionReworded conditions others) (name : Value) :
    (fieldDemands (name, .object conditions)).map Demand.predicate =
      (fieldDemands (name, .object others)).map Demand.predicate := by
  cases h with
  | ignored hkey => simp [fieldDemands, hkey]
  | renamed hkey hother _ => simp [fieldDemands, hkey, hother]
  | @single before after key operand positive hkey hoperand =>
    have hmembers : operands operand = operands (.list [operand]) := by
      cases operand <;> simp_all [operands, Value.isContainer]
    simp [fieldDemands, hkey, Demand.predicate, predicate, membership, hmembers]

theorem OrderReworded.outcomes {entries others : List Value} (h : OrderReworded entries others) :
    entries.map orderEntry = others.map orderEntry := by
  have hpair : ∀ {entry name : Value} {direction : String}, entry.isText = false →
      entry.members? = some [name, .text direction] →
      orderEntry entry = .ok ⟨ColumnName.ofValue name, isDescending (.text direction)⟩ := by
    intro entry name direction hentry hmembers
    cases entry <;> simp_all [orderEntry, Value.isText]
  cases h with
  | @ascending before after name =>
    have hspelled : orderEntry (.list [.text name, .text "asc"]) = .ok ⟨.named name, false⟩ := by
      rw [hpair rfl rfl]
      rfl
    have hbare : orderEntry (.text name) = .ok ⟨.named name, false⟩ := rfl
    simp [hspelled, hbare]
  | direction hentry hsaid hother hmeant h =>
    simp [hpair hentry hsaid, hpair hother hmeant, h]

theorem orderEntries_of_members {v : Value} {entries : List Value}
    (h : v.members? = some entries) : orderEntries v = entries.mapM orderEntry := by
  unfold orderEntries
  cases hne : v.truthy with
  | true => rw [if_pos rfl, h]
  | false =>
    have hnone : entries = [] := by
      cases v <;> simp_all [Value.members?, Value.truthy]
    rw [hnone]
    rfl

/-- A reworded order has the same entries. -/
theorem OrderReworded.orderEntries_eq {v other : Value} {entries others : List Value}
    (h : OrderReworded entries others) (hv : v.members? = some entries)
    (hother : other.members? = some others) : orderEntries v = orderEntries other := by
  rw [orderEntries_of_members hv, orderEntries_of_members hother,
    Outcome.mapM_eq_of_map_eq h.outcomes]

theorem Level.Agrees.refl (level : Level) : level.Agrees level := ⟨rfl, rfl, rfl, fun _ => rfl, rfl⟩

/-- A reworded level agrees with the original one. -/
theorem LevelReworded.agrees {es others : List (Value × Value)} (h : LevelReworded es others) :
    (Level.ofEntries es).Agrees (Level.ofEntries others) := by
  cases h with
  | @ignored before after name v hname hv =>
    rw [ofEntries_column hname]
    refine ⟨rfl, rfl, rfl, fun _ => rfl, predicates_eq_of_outcomes ?_⟩
    have hfield : fieldDemands (name, v) = [] := by
      cases v <;> simp_all [fieldDemands, Value.object?]
    simp [Level.demands, hfield, Level.ofEntries, columnsOf]
  | condition hname h =>
    rw [ofEntries_column hname, ofEntries_column hname]
    refine ⟨rfl, rfl, rfl, fun _ => rfl, predicates_eq_of_outcomes ?_⟩
    simp [Level.demands, h.outcomes]
  | order hv hother h honce =>
    rw [ofEntries_shaping (by decide) _ honce, ofEntries_shaping (by decide) _ honce]
    refine ⟨rfl, rfl, ?_, fun _ => rfl, rfl⟩
    exact h.orderEntries_eq hv hother
  | @void before after name v hname hv honce =>
    rcases hname with rfl | rfl
    · rw [ofEntries_shaping (by decide) v honce]
      refine ⟨rfl, rfl, rfl, fun c => ?_, rfl⟩
      have hnested : (Level.ofEntries (before ++ after)).nested = none := honce
      rw [hnested]
      exact compile_void c v hv
    · rw [ofEntries_shaping (by decide) v honce]
      refine ⟨rfl, rfl, ?_, fun _ => rfl, rfl⟩
      have horder : (Level.ofEntries (before ++ after)).order = none := honce
      have hvoid : orderEntries v = .ok [] := by simp [orderEntries, hv]
      rw [Level.orders, Level.orders, horder]
      exact hvoid
  | moved hname hrest honce =>
    rw [ofEntries_shaping hname _ honce, ofEntries_shaping hname _ (hrest ▸ honce), hrest]
    exact Level.Agrees.refl _

/-- A single rewording at any level preserves the compiled criteria. -/
theorem Reworded.compile_eq {query other : Value} (h : Reworded query other) (c : Criteria) :
    c.compile query = c.compile other := by
  -- An inner query is compiled on the criteria of its outer levels, so for all criteria at once.
  induction h generalizing c with
  | level h hother hlevel => exact compile_eq_of_agrees h hother hlevel.agrees c
  | nested h hother honce _ ih =>
    refine compile_eq_of_agrees h hother ?_ c
    rw [ofEntries_shaping (by decide) _ honce, ofEntries_shaping (by decide) _ honce]
    exact ⟨rfl, rfl, rfl, ih, rfl⟩

/-- The count of the rows that a query selects. -/
def counting (table : String) (query : Value) : Outcome (Fragment Value) :=
  empty.compile query >>= fun c =>
    (c.select .count table).map Statement.select >>= fun s => s.render

/-- Queries that differ by rewordings, at any levels and any number of times, compile to the same
criteria or fail alike, and so do the statements built from them. -/
theorem compile_eq_of_reworded {query other : Value} (h : Relation.EqvGen Reworded query other) :
    (∀ c : Criteria, c.compile query = c.compile other) ∧
      ∀ table, read table query = read table other ∧
        counting table query = counting table other ∧
        removal table query = removal table other := by
  have hcompile : ∀ c : Criteria, c.compile query = c.compile other := by
    induction h with
    | rel query other h => exact h.compile_eq
    | refl query => exact fun c => rfl
    | symm query other _ ih => exact fun c => (ih c).symm
    | trans query middle other _ _ ih ih' => exact fun c => (ih c).trans (ih' c)
  refine ⟨hcompile, fun table => ?_⟩
  unfold read counting removal
  rw [hcompile]
  exact ⟨rfl, rfl, rfl⟩

/-- A query with a single member and a bare order, and with three irrelevant words: the field `x`,
the inner order, and the position of the outer one. -/
def wordyQuery : Value :=
  .object [("orderBy", .list [.text "b"]), ("x", .int 1),
    ("where", .object [("a", .object [("in", .text "s")]), ("orderBy", .null)])]

def plainQuery : Value :=
  .object [("where", .object [("a", .object [("contains", .list [.text "s"])])]),
    ("orderBy", .list [.list [.text "b", .text "asc"]])]

/-- The inner level of one query is turned into that of the other by three rewordings. -/
theorem reworded_inner (before after : List (String × Value))
    (honce : lookup? "where" ((before ++ after).map fun (name, v) => (.text name, v)) = none) :
    Relation.EqvGen Reworded
      (.object (before ++ ("where", .object [("a", .object [("in", .text "s")]),
        ("orderBy", .null)]) :: after))
      (.object (before ++ ("where", .object [("a", .object [("contains", .list [.text "s"])])])
        :: after)) := by
  have hinside : ∀ inner inner' : Value, Reworded inner inner' →
      Relation.EqvGen Reworded (.object (before ++ ("where", inner) :: after))
        (.object (before ++ ("where", inner') :: after)) := by
    intro inner inner' h
    rw [List.map_append] at honce
    refine .rel _ _ (.nested ?_ ?_ honce h)
    · simp [entries]
    · simp [entries]
  have hcondition : ∀ conditions others : Fields Value, ConditionReworded conditions others →
      Reworded (.object [("a", .object conditions)]) (.object [("a", .object others)]) :=
    fun conditions others h => .level rfl rfl (@LevelReworded.condition [] [] _ _ _ rfl h)
  have hvoid : Reworded (.object [("a", .object [("in", .text "s")]), ("orderBy", .null)])
      (.object [("a", .object [("in", .text "s")])]) :=
    .level rfl rfl (@LevelReworded.void [(.text "a", _)] [] _ _ (.inr rfl) rfl rfl)
  have hrenamed : ConditionReworded [("in", .text "s")] [("contains", .text "s")] :=
    @ConditionReworded.renamed [] [] _ _ _ _ rfl rfl (by simp [Fields.keys])
  have hsingle : ConditionReworded [("contains", .text "s")] [("contains", .list [.text "s"])] :=
    @ConditionReworded.single [] [] _ _ _ rfl rfl
  exact .trans _ _ _ (hinside _ _ hvoid) (.trans _ _ _ (hinside _ _ (hcondition _ _ hrenamed))
    (hinside _ _ (hcondition _ _ hsingle)))

theorem reworded_plainQuery : Relation.EqvGen Reworded wordyQuery plainQuery := by
  have hinner := reworded_inner [("orderBy", .list [.text "b"]), ("x", .int 1)] [] rfl
  have hfield : Reworded
      (.object [("orderBy", .list [.text "b"]), ("x", .int 1),
        ("where", .object [("a", .object [("contains", .list [.text "s"])])])])
      (.object [("orderBy", .list [.text "b"]),
        ("where", .object [("a", .object [("contains", .list [.text "s"])])])]) :=
    .level rfl rfl (@LevelReworded.ignored [(.text "orderBy", _)] [(.text "where", _)] _ _ rfl rfl)
  have horder : Reworded
      (.object [("orderBy", .list [.text "b"]),
        ("where", .object [("a", .object [("contains", .list [.text "s"])])])])
      (.object [("orderBy", .list [.list [.text "b", .text "asc"]]),
        ("where", .object [("a", .object [("contains", .list [.text "s"])])])]) :=
    .level rfl rfl (@LevelReworded.order [] [(.text "where", _)] _ _ _ _ rfl rfl
      (@OrderReworded.ascending [] [] "b") rfl)
  have hmoved : Reworded
      (.object [("orderBy", .list [.list [.text "b", .text "asc"]]),
        ("where", .object [("a", .object [("contains", .list [.text "s"])])])]) plainQuery :=
    .level rfl rfl (@LevelReworded.moved [] [(.text "where", _)] [(.text "where", _)] [] _ _
      (by decide) rfl rfl)
  exact .trans _ _ _ hinner (.trans _ _ _ (.rel _ _ hfield)
    (.trans _ _ _ (.rel _ _ horder) (.rel _ _ hmoved)))

/-- Both queries have the same statement. -/
theorem compile_eq_of_reworded_plainQuery :
    Relation.EqvGen Reworded wordyQuery plainQuery ∧
      read "user" wordyQuery = read "user" plainQuery ∧
      read "user" wordyQuery =
        .ok ⟨"SELECT * \nFROM user \nWHERE a IN (?) ORDER BY b ASC", [.text "s"]⟩ := by
  obtain ⟨-, hstatements⟩ := compile_eq_of_reworded reworded_plainQuery
  exact ⟨reworded_plainQuery, (hstatements "user").1, rfl⟩

end Criteria

end SqlBridge
