import SqlBridge.Proofs.Outcome
import SqlBridge.Query

/-!
Levels of queries: the outer mapping, then the one under its `where`, and so on to the deepest that
is not falsy. The fuel of the compiler suffices, because a nested query is less deep than the
enclosing level. A query compiles exactly when its levels can be read and each level compiles; the
predicates of the deepest level come first, the order entries of the outermost level come first, and
the deepest level with a limit or an offset determines it.
-/

namespace SqlBridge

namespace Value

theorem depth_le_of_mem_items {v : Value} {items : List Value} (h : v ∈ items) :
    v.depth ≤ depthOfItems items := by
  induction items with
  | nil => simp at h
  | cons first rest ih =>
    simp only [depthOfItems]
    rcases List.mem_cons.mp h with rfl | hrest
    · omega
    · have := ih hrest
      omega

theorem depth_le_of_mem_fields {field : String × Value} {fields : List (String × Value)}
    (h : field ∈ fields) : field.2.depth ≤ depthOfFields fields := by
  induction fields with
  | nil => simp at h
  | cons first rest ih =>
    simp only [depthOfFields]
    rcases List.mem_cons.mp h with rfl | hrest
    · omega
    · have := ih hrest
      omega

/-- The members of a value are at most as deep as the value. -/
theorem depth_le_of_mem_members {v member : Value} {members : List Value}
    (hmembers : v.members? = some members) (h : member ∈ members) : member.depth ≤ v.depth := by
  cases v with
  | text s =>
    cases hmembers
    obtain ⟨c, -, rfl⟩ := List.mem_map.mp h
    simp [depth]
  | list items =>
    cases hmembers
    have := depth_le_of_mem_items h
    simp only [depth]
    omega
  | object fields =>
    cases hmembers
    obtain ⟨field, -, rfl⟩ := List.mem_map.mp h
    simp [depth]
  | _ => simp [members?] at hmembers

end Value

theorem mem_putEntry {entries : List (Value × Value)} {name v : Value} {entry : Value × Value}
    (h : entry ∈ putEntry entries name v) : entry.2 = v ∨ entry ∈ entries := by
  induction entries with
  | nil =>
    simp only [putEntry, List.mem_singleton] at h
    exact Or.inl (by rw [h])
  | cons first rest ih =>
    simp only [putEntry] at h
    split at h
    · rcases List.mem_cons.mp h with rfl | hrest
      · exact Or.inl rfl
      · exact Or.inr (List.mem_cons_of_mem first hrest)
    · rcases List.mem_cons.mp h with rfl | hrest
      · exact Or.inr List.mem_cons_self
      · rcases ih hrest with hv | hmem
        · exact Or.inl hv
        · exact Or.inr (List.mem_cons_of_mem first hmem)

theorem entryOf_depth {index : ℕ} {member name v : Value}
    (h : entryOf index member = .ok (name, v)) : v.depth ≤ member.depth := by
  unfold entryOf at h
  split at h
  · simp at h
  · next first second hmembers =>
    split at h
    · cases h
      exact Value.depth_le_of_mem_members hmembers (by simp)
    · simp at h
  · simp at h

theorem mem_entriesFrom {index : ℕ} {before result : List (Value × Value)} {members : List Value}
    (h : entriesFrom index before members = .ok result) {entry : Value × Value}
    (hentry : entry ∈ result) :
    entry ∈ before ∨ ∃ member ∈ members, entry.2.depth ≤ member.depth := by
  induction members generalizing index before with
  | nil =>
    cases h
    exact Or.inl hentry
  | cons member rest ih =>
    obtain ⟨⟨name, v⟩, hread, hrest⟩ := Outcome.bind_eq_ok_iff.mp h
    rcases ih hrest with hbefore | ⟨other, hother, hdepth⟩
    · rcases mem_putEntry hbefore with hv | hbefore
      · refine Or.inr ⟨member, List.mem_cons_self, ?_⟩
        rw [hv]
        exact entryOf_depth hread
      · exact Or.inl hbefore
    · exact Or.inr ⟨other, List.mem_cons_of_mem member hother, hdepth⟩

/-- A value in a mapping is less deep than the mapping. -/
theorem entries_depth {query : Value} {es : List (Value × Value)} (h : entries query = .ok es)
    (hne : query.truthy = true) {entry : Value × Value} (hentry : entry ∈ es) :
    entry.2.depth < query.depth := by
  cases query with
  | object fields =>
    cases h
    obtain ⟨field, hfield, rfl⟩ := List.mem_map.mp hentry
    have := Value.depth_le_of_mem_fields hfield
    simp only [Value.depth]
    omega
  | list members =>
    rcases mem_entriesFrom h hentry with hbefore | ⟨member, hmember, hdepth⟩
    · simp at hbefore
    · have := Value.depth_le_of_mem_items hmember
      simp only [Value.depth]
      omega
  | text s =>
    have hs : s.isEmpty = false := by simpa [Value.truthy] using hne
    simp [entries, hs] at h
  | _ => simp [entries] at h

theorem mem_of_lookup? {name : String} {es : List (Value × Value)} {v : Value}
    (h : lookup? name es = some v) : (.text name, v) ∈ es := by
  induction es with
  | nil => simp [lookup?] at h
  | cons entry rest ih =>
    obtain ⟨key, value⟩ := entry
    cases key with
    | text s =>
      simp only [lookup?] at h
      split at h
      · next hs =>
        cases h
        rw [hs]
        exact List.mem_cons_self
      · exact List.mem_cons_of_mem _ (ih h)
    | _ => exact List.mem_cons_of_mem _ (ih h)

namespace Criteria

theorem depth_lt_of_nested {query nested : Value} {es : List (Value × Value)}
    (hne : query.truthy = true) (hread : entries query = .ok es)
    (hnested : lookup? "where" es = some nested) : nested.depth < query.depth :=
  entries_depth hread hne (mem_of_lookup? hnested)

/-- Fuel beyond the depth of a query is irrelevant. -/
theorem compileWith_fuel (fuel fuel' : ℕ) (c : Criteria) (query : Value)
    (h : query.depth < fuel) (h' : query.depth < fuel') :
    compileWith fuel c query = compileWith fuel' c query := by
  induction fuel generalizing fuel' c query with
  | zero => omega
  | succ n ih =>
    cases fuel' with
    | zero => omega
    | succ m =>
      simp only [compileWith]
      split
      · next hne =>
        cases hread : entries query with
        | error f => rfl
        | ok es =>
          simp only [Outcome.ok_bind]
          cases hnested : (Level.ofEntries es).nested with
          | none => rfl
          | some nested =>
            have hlt := depth_lt_of_nested hne hread hnested
            have heq : ∀ shaped, compileWith n shaped nested = compileWith m shaped nested :=
              fun shaped => ih m shaped nested (by omega) (by omega)
            simp only [heq]
      · rfl

/-- The equation of the compiler without fuel. -/
theorem compile_eq (c : Criteria) (query : Value) (hne : query.truthy = true) :
    c.compile query = entries query >>= fun es =>
      c.shape (Level.ofEntries es) >>= fun shaped =>
        (match (Level.ofEntries es).nested with
          | some nested => shaped.compile nested
          | none => .ok shaped) >>= fun inner => inner.constrain (Level.ofEntries es) := by
  unfold compile
  rw [compileWith, if_pos hne]
  cases hread : entries query with
  | error f => rfl
  | ok es =>
    simp only [Outcome.ok_bind]
    cases hnested : (Level.ofEntries es).nested with
    | none => rfl
    | some nested =>
      have hlt := depth_lt_of_nested hne hread hnested
      have heq : ∀ shaped : Criteria,
          compileWith query.depth shaped nested = compileWith (nested.depth + 1) shaped nested :=
        fun shaped => compileWith_fuel _ _ shaped nested hlt (by omega)
      simp only [heq]

theorem compile_void (c : Criteria) (query : Value) (h : query.truthy = false) :
    c.compile query = .ok c := by
  simp [compile, compileWith, h]

/-- The levels of a query from the outermost to the deepest that is not falsy. -/
def levels (query : Value) : Outcome (List Level) :=
  if _ : query.truthy = true then
    match _ : entries query with
    | .error f => .error f
    | .ok es =>
      match _ : lookup? "where" es with
      | none => .ok [Level.ofEntries es]
      | some nested => (levels nested).map (Level.ofEntries es :: ·)
  else .ok []
termination_by query.depth
decreasing_by exact depth_lt_of_nested ‹_› ‹_› ‹_›

theorem levels_void {query : Value} (h : query.truthy = false) : levels query = .ok [] := by
  rw [levels, dif_neg (by simp [h])]

/-- The first level of a query, followed by the levels of its nested one. -/
theorem levels_eq {query : Value} (hne : query.truthy = true) :
    levels query = entries query >>= fun es =>
      (match (Level.ofEntries es).nested with
        | some nested => levels nested
        | none => .ok []).map (Level.ofEntries es :: ·) := by
  rw [levels, dif_pos hne]
  split
  · next f hread => rw [hread]; rfl
  · next es hread =>
    rw [hread, Outcome.ok_bind]
    split
    · next hnested => simp only [Level.ofEntries, hnested]; rfl
    · next nested hnested => simp only [Level.ofEntries, hnested]

/-- The order entries of one level. -/
def Level.orders (level : Level) : Outcome (List Sql.Order) :=
  match level.order with
  | some v => orderEntries v
  | none => .ok []

/-- The predicates of one level. -/
def Level.predicates (level : Level) : Outcome (List Sql.Predicate) :=
  fieldsPredicates level.fields

theorem shape_eq (c : Criteria) (level : Level) :
    c.shape level = level.orders.map fun orders =>
      { c with
        limit := level.limit.getD c.limit
        offset := level.offset.getD c.offset
        order := c.order ++ orders } := by
  unfold shape Level.orders
  cases level.order with
  | none => rfl
  | some v => cases orderEntries v <;> rfl

theorem constrain_eq (c : Criteria) (level : Level) :
    c.constrain level = level.predicates.map fun predicates =>
      { c with predicates := c.predicates ++ predicates } := by
  unfold constrain Level.predicates
  cases fieldsPredicates level.fields <;> rfl

/-- The value given by the deepest level that gives one. -/
def deepest (start : Value) (given : List (Option Value)) : Value :=
  given.foldl (fun v own => own.getD v) start

/-- Criteria extended by the levels of a query, with the predicates and order entries of each level
from the outermost on. -/
def extend (c : Criteria) (levels : List Level) (predicates : List (List Sql.Predicate))
    (orders : List (List Sql.Order)) : Criteria :=
  ⟨c.predicates ++ predicates.reverse.flatten, c.order ++ orders.flatten,
    deepest c.limit (levels.map (·.limit)), deepest c.offset (levels.map (·.offset))⟩

/-- The criteria after the shape of a level has been applied. -/
def shaped (c : Criteria) (level : Level) (orders : List Sql.Order) : Criteria :=
  { c with
    limit := level.limit.getD c.limit
    offset := level.offset.getD c.offset
    order := c.order ++ orders }

/-- The predicates of a level follow those of the levels below it. -/
theorem extend_cons (c : Criteria) (level : Level) (rest : List Level)
    (own : List Sql.Predicate) (predicates : List (List Sql.Predicate))
    (first : List Sql.Order) (orders : List (List Sql.Order)) :
    c.extend (level :: rest) (own :: predicates) (first :: orders) =
      { (c.shaped level first).extend rest predicates orders with
        predicates :=
          ((c.shaped level first).extend rest predicates orders).predicates ++ own } := by
  simp [extend, shaped, deepest]

/-- Without levels the criteria are unchanged. -/
theorem eq_extend_nil_iff (c result : Criteria) :
    (Except.ok c : Outcome Criteria) = .ok result ↔
      ∃ ls predicates orders, (Except.ok [] : Outcome (List Level)) = .ok ls ∧
        ls.mapM Level.predicates = .ok predicates ∧ ls.mapM Level.orders = .ok orders ∧
        result = c.extend ls predicates orders := by
  constructor
  · intro h
    cases h
    exact ⟨[], [], [], rfl, rfl, rfl, by simp [extend, deepest]⟩
  · rintro ⟨ls, predicates, orders, hlevels, hpredicates, horders, rfl⟩
    cases hlevels
    cases hpredicates
    cases horders
    simp [extend, deepest]

/-- A query compiles exactly when all its levels compile, and its result is the criteria extended by
them. -/
theorem compile_eq_ok_iff (query : Value) (c result : Criteria) :
    c.compile query = .ok result ↔
      ∃ levelsOfQuery predicates orders, levels query = .ok levelsOfQuery ∧
        levelsOfQuery.mapM Level.predicates = .ok predicates ∧
        levelsOfQuery.mapM Level.orders = .ok orders ∧
        result = c.extend levelsOfQuery predicates orders := by
  induction hdepth : query.depth using Nat.strongRecOn generalizing query c result with
  | ind depth ih =>
  cases hne : query.truthy with
  | false =>
    rw [compile_void c query hne, levels_void hne]
    exact eq_extend_nil_iff c result
  | true =>
    rw [compile_eq c query hne, levels_eq hne]
    cases hread : entries query with
    | error f => simp
    | ok es =>
      -- The levels below this one, compiled on the criteria after its shape.
      have hinner : ∀ start inner : Criteria,
          (match (Level.ofEntries es).nested with
            | some nested => start.compile nested
            | none => .ok start) = .ok inner ↔
          ∃ ls predicates orders,
            (match (Level.ofEntries es).nested with
              | some nested => levels nested
              | none => .ok []) = .ok ls ∧
            ls.mapM Level.predicates = .ok predicates ∧ ls.mapM Level.orders = .ok orders ∧
            inner = start.extend ls predicates orders := by
        intro start inner
        cases hnested : (Level.ofEntries es).nested with
        | none => exact eq_extend_nil_iff start inner
        | some nested =>
          have hlt := depth_lt_of_nested hne hread hnested
          exact ih nested.depth (hdepth ▸ hlt) nested start inner rfl
      simp only [Outcome.ok_bind, shape_eq, constrain_eq, Outcome.bind_eq_ok_iff,
        Outcome.map_eq_ok_iff, hinner]
      constructor
      · rintro ⟨-, ⟨first, hfirst, rfl⟩, inner, ⟨ls, predicates, orders, hls, hps, hos, rfl⟩,
          own, hown, rfl⟩
        refine ⟨_, own :: predicates, first :: orders, ⟨ls, hls, rfl⟩,
          Outcome.mapM_cons_eq_ok_iff.mpr ⟨own, predicates, hown, hps, rfl⟩,
          Outcome.mapM_cons_eq_ok_iff.mpr ⟨first, orders, hfirst, hos, rfl⟩, ?_⟩
        rw [extend_cons]
        rfl
      · rintro ⟨-, predicates, orders, ⟨ls, hls, rfl⟩, hps, hos, rfl⟩
        obtain ⟨own, morePs, hown, hmorePs, rfl⟩ := Outcome.mapM_cons_eq_ok_iff.mp hps
        obtain ⟨first, moreOs, hfirst, hmoreOs, rfl⟩ := Outcome.mapM_cons_eq_ok_iff.mp hos
        refine ⟨_, ⟨first, hfirst, rfl⟩, _, ⟨ls, morePs, moreOs, hls, hmorePs, hmoreOs, rfl⟩,
          own, hown, ?_⟩
        rw [extend_cons]
        rfl

end Criteria

end SqlBridge
