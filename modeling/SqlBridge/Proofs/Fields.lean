import Mathlib.Data.List.Nodup
import SqlBridge.Fields

/-!
Lookups in ordered maps. An insertion changes the lookup of its own name only, so in a merge the
later map takes precedence. Names stay distinct, and every field of the result is a field of one of
the maps.
-/

namespace SqlBridge.Fields

variable {α : Type}

theorem contains_iff_mem_keys {fields : Fields α} {name : String} :
    fields.contains name = true ↔ name ∈ fields.keys := by
  induction fields with
  | nil => simp [contains, get?, keys]
  | cons field rest ih =>
    obtain ⟨other, v⟩ := field
    by_cases hname : other = name
    · simp [contains, get?, keys, hname]
    · simpa [contains, get?, keys, hname, Ne.symm hname] using ih

theorem get?_eq_none_iff {fields : Fields α} {name : String} :
    fields.get? name = none ↔ name ∉ fields.keys := by
  rw [← contains_iff_mem_keys, contains, Option.isSome_iff_ne_none, not_not]

theorem mem_of_get? {fields : Fields α} {name : String} {v : α} (h : fields.get? name = some v) :
    (name, v) ∈ fields := by
  induction fields with
  | nil => cases h
  | cons field rest ih =>
    obtain ⟨key, value⟩ := field
    rw [get?] at h
    split at h
    · next hkey =>
      obtain rfl := Option.some.inj h
      exact hkey ▸ List.mem_cons_self
    · exact List.mem_cons_of_mem _ (ih h)

theorem get?_of_mem {fields : Fields α} (hnodup : fields.keys.Nodup) {field : String × α}
    (h : field ∈ fields) : fields.get? field.1 = some field.2 := by
  induction fields with
  | nil => cases h
  | cons first rest ih =>
    obtain ⟨hnew, hrest⟩ := List.nodup_cons.mp hnodup
    rw [get?]
    rcases List.mem_cons.mp h with rfl | hmem
    · rw [if_pos rfl]
    · have hother : first.1 ≠ field.1 := fun heq => hnew (List.mem_map.mpr ⟨field, hmem, heq.symm⟩)
      rw [if_neg hother, ih hrest hmem]

theorem keys_insert (fields : Fields α) (name : String) (v : α) :
    (fields.insert name v).keys =
      if name ∈ fields.keys then fields.keys else fields.keys ++ [name] := by
  induction fields with
  | nil => rfl
  | cons field rest ih =>
    obtain ⟨key, old⟩ := field
    by_cases hkey : key = name
    · simp [insert, keys, hkey]
    · have hne : name ≠ key := fun h => hkey h.symm
      have hmem : name ∈ keys ((key, old) :: rest) ↔ name ∈ keys rest := by simp [keys, hne]
      have hrest :
          keys (insert ((key, old) :: rest) name v) = key :: keys (insert rest name v) := by
        rw [insert, if_neg hkey]
        rfl
      rw [hrest, ih]
      by_cases hname : name ∈ keys rest
      · rw [if_pos hname, if_pos (hmem.mpr hname)]
        rfl
      · rw [if_neg hname, if_neg fun h => hname (hmem.mp h)]
        rfl

theorem get?_insert (fields : Fields α) (name other : String) (v : α) :
    (fields.insert name v).get? other = if other = name then some v else fields.get? other := by
  induction fields with
  | nil =>
    by_cases hother : other = name
    · simp [insert, get?, hother]
    · have hne : name ≠ other := fun h => hother h.symm
      simp [insert, get?, hother, hne]
  | cons field rest ih =>
    obtain ⟨key, old⟩ := field
    by_cases hkey : key = name
    · subst hkey
      by_cases hother : other = key
      · simp [insert, get?, hother]
      · have hne : key ≠ other := fun h => hother h.symm
        simp [insert, get?, hother, hne]
    · rw [insert, if_neg hkey, get?, get?, ih]
      by_cases hother : key = other
      · have hne : other ≠ name := fun h => hkey (hother.trans h)
        simp [hother, hne]
      · simp [hother]

/-- A field under a new name is appended. -/
theorem insert_of_not_mem {fields : Fields α} {name : String} (h : name ∉ fields.keys) (v : α) :
    fields.insert name v = fields ++ [(name, v)] := by
  induction fields with
  | nil => rfl
  | cons field rest ih =>
    simp only [keys, List.map_cons, List.mem_cons, not_or] at h
    rw [insert, if_neg (Ne.symm h.1), ih h.2, List.cons_append]

/-- In a map with distinct names the next name is not among the names before it. -/
theorem not_mem_keys_of_nodup {fields later : Fields α} {name : String} {v : α}
    (h : (keys (fields ++ (name, v) :: later)).Nodup) : name ∉ fields.keys := by
  rw [keys, List.map_append, List.nodup_append] at h
  exact fun hname => h.2.2 name hname name (by simp) rfl

theorem nodup_keys_insert {fields : Fields α} (h : fields.keys.Nodup) (name : String) (v : α) :
    (fields.insert name v).keys.Nodup := by
  rw [keys_insert]
  split_ifs with hname
  · exact h
  · refine List.nodup_append.mpr ⟨h, List.nodup_singleton name, ?_⟩
    intro a ha b hb hab
    rw [hab, List.mem_singleton.mp hb] at ha
    exact hname ha

theorem mem_insert {fields : Fields α} {name : String} {v : α} {field : String × α}
    (h : field ∈ fields.insert name v) : field ∈ fields ∨ field = (name, v) := by
  induction fields with
  | nil => exact .inr (List.mem_singleton.mp h)
  | cons first rest ih =>
    obtain ⟨key, old⟩ := first
    rw [insert] at h
    split at h
    · next hkey =>
      rcases List.mem_cons.mp h with hfirst | hrest
      · exact .inr (hkey ▸ hfirst)
      · exact .inl (List.mem_cons_of_mem _ hrest)
    · rcases List.mem_cons.mp h with hfirst | hrest
      · exact .inl (hfirst ▸ List.mem_cons_self)
      · exact (ih hrest).imp_left (List.mem_cons_of_mem _)

@[simp] theorem merge_cons (fields later : Fields α) (name : String) (v : α) :
    fields.merge ((name, v) :: later) = (fields.insert name v).merge later := rfl

theorem nodup_keys_merge {fields : Fields α} (h : fields.keys.Nodup) (later : Fields α) :
    (fields.merge later).keys.Nodup := by
  induction later generalizing fields with
  | nil => exact h
  | cons field rest ih => exact ih (nodup_keys_insert h field.1 field.2)

theorem mem_merge {fields later : Fields α} {field : String × α} (h : field ∈ fields.merge later) :
    field ∈ fields ∨ field ∈ later := by
  induction later generalizing fields with
  | nil => exact .inl h
  | cons first rest ih =>
    rcases ih h with hinserted | hrest
    · rcases mem_insert hinserted with hold | rfl
      · exact .inl hold
      · exact .inr List.mem_cons_self
    · exact .inr (List.mem_cons_of_mem _ hrest)

/-- In a merge the later map takes precedence. -/
theorem get?_merge {later : Fields α} (h : later.keys.Nodup) (fields : Fields α) (name : String) :
    (fields.merge later).get? name = (later.get? name).or (fields.get? name) := by
  induction later generalizing fields with
  | nil => rfl
  | cons field rest ih =>
    obtain ⟨key, v⟩ := field
    obtain ⟨hkey, hrest⟩ := List.nodup_cons.mp h
    rw [merge_cons, ih hrest, get?_insert, get?]
    by_cases hname : key = name
    · subst hname
      rw [get?_eq_none_iff.mpr hkey, if_pos rfl, if_pos rfl]
      rfl
    · rw [if_neg hname, if_neg (Ne.symm hname)]

/-- Fields under new names are appended in their order. -/
theorem merge_of_nodup {fields later : Fields α} (h : (keys (fields ++ later)).Nodup) :
    fields.merge later = fields ++ later := by
  induction later generalizing fields with
  | nil => exact (List.append_nil fields).symm
  | cons field rest ih =>
    obtain ⟨name, v⟩ := field
    have happend : fields ++ (name, v) :: rest = (fields ++ [(name, v)]) ++ rest := by simp
    rw [merge_cons, insert_of_not_mem (not_mem_keys_of_nodup h), happend]
    exact ih (happend ▸ h)

theorem nodup_keys_erase {fields : Fields α} (h : fields.keys.Nodup) (name : String) :
    (fields.erase name).keys.Nodup :=
  h.sublist (List.filter_sublist.map _)

end SqlBridge.Fields
