import SqlBridge.TableSet

/-!
Membership in sets of tables. Names are never removed, and a text is a member exactly when it was
inserted.
-/

namespace SqlBridge

/-- Texts have the same key only if they are equal. -/
theorem Value.key?_eq_text_iff {v : Value} {t : String} :
    v.key? = some (.text t) ↔ v = .text t := by
  cases v with
  | double x =>
    simp only [Value.key?, Option.some.injEq, reduceCtorEq, iff_false]
    split <;> simp
  | _ => simp [Value.key?]

namespace TableSet

theorem contains_iff {s : TableSet} {name : Value} :
    s.contains name = true ↔ ∃ v ∈ s.names, v.key? = name.key? := by
  simp [contains]

theorem contains_text_iff {s : TableSet} {t : String} :
    s.contains (.text t) = true ↔ .text t ∈ s.names := by
  rw [contains_iff]
  constructor
  · rintro ⟨v, hv, hkey⟩
    have heq : v = .text t := Value.key?_eq_text_iff.mp hkey
    rwa [← heq]
  · intro h
    exact ⟨.text t, h, rfl⟩

theorem mem_insert_of_mem {s : TableSet} {v : Value} (h : v ∈ s.names) (name : Value) :
    v ∈ (s.insert name).names := by
  unfold insert
  split
  · exact h
  · exact List.mem_append_left _ h

theorem mem_insert_text_iff {s : TableSet} {t : String} {v : Value} :
    v ∈ (s.insert (.text t)).names ↔ v ∈ s.names ∨ v = .text t := by
  unfold insert
  split
  · next h =>
    have hmem : .text t ∈ s.names := contains_text_iff.mp h
    constructor
    · exact Or.inl
    · rintro (hv | rfl)
      · exact hv
      · exact hmem
  · simp

/-- The texts in the set after insertions are those that were members or are inserted. -/
theorem mem_insertAll_texts_iff {s : TableSet} {names : List Value}
    (hnames : ∀ name ∈ names, name.isText = true) {v : Value} :
    v ∈ (s.insertAll names).names ↔ v ∈ s.names ∨ v ∈ names := by
  unfold insertAll
  induction names generalizing s with
  | nil => simp
  | cons name rest ih =>
    have hname : name.isText = true := hnames name List.mem_cons_self
    obtain ⟨t, rfl⟩ : ∃ t, name = .text t := by
      cases name with
      | text t => exact ⟨t, rfl⟩
      | _ => simp [Value.isText] at hname
    rw [List.foldl_cons, ih fun other hother => hnames other (List.mem_cons_of_mem _ hother),
      mem_insert_text_iff, List.mem_cons, or_assoc]

/-- A set with an insertion contains the names with the key of a member or of the inserted name. -/
theorem contains_insert_iff {s : TableSet} {name v : Value} :
    (s.insert name).contains v = true ↔ s.contains v = true ∨ name.key? = v.key? := by
  unfold insert
  split
  · next h =>
    constructor
    · exact Or.inl
    · rintro (hv | hkey)
      · exact hv
      · obtain ⟨u, hu, hsame⟩ := contains_iff.mp h
        exact contains_iff.mpr ⟨u, hu, hsame.trans hkey⟩
  · simp [contains]

theorem contains_insertAll_iff {s : TableSet} {names : List Value} {v : Value} :
    (s.insertAll names).contains v = true ↔
      s.contains v = true ∨ ∃ name ∈ names, name.key? = v.key? := by
  unfold insertAll
  induction names generalizing s with
  | nil => simp
  | cons name rest ih =>
    rw [List.foldl_cons, ih, contains_insert_iff]
    simp only [List.mem_cons, exists_eq_or_imp, or_assoc]

/-- A name is a member after its insertion and after all later ones. -/
theorem contains_insertAll_of_mem {s : TableSet} {names : List Value} {name : Value}
    (h : name ∈ names) : (s.insertAll names).contains name = true :=
  contains_insertAll_iff.mpr (Or.inr ⟨name, h, rfl⟩)

theorem contains_insertAll_of_contains {s : TableSet} {name : Value} (h : s.contains name = true)
    (names : List Value) : (s.insertAll names).contains name = true :=
  contains_insertAll_iff.mpr (Or.inl h)

end TableSet

end SqlBridge
