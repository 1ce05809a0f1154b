import SqlBridge.Proofs.Sql.Name
import SqlBridge.Schema.Mapper

/-!
Tables named after entities. Snake case can be decoded: a character after an underscore was a
capital, so a name of letters and digits is determined by its table up to the case of its first
character. Snake case is idempotent, so the name of a table can be used in place of the name of its
entity.
-/

namespace SqlBridge.Schema

/-- A name of letters and digits, all of ASCII. -/
def IsEntityName (name : String) : Prop := ∀ c ∈ name.toList, c.isAlphanum = true

instance (name : String) : Decidable (IsEntityName name) :=
  decidable_of_iff (name.toList.all Char.isAlphanum = true) List.all_eq_true

/-- A name of lower-case letters, digits and underscores that does not begin with an underscore. -/
structure IsSnakeCase (name : String) : Prop where
  plain : ∀ c ∈ name.toList, Sql.isPlainChar c = true
  start : name.toList.head? ≠ some '_'

/-- The characters of a name, the first one in lower case. -/
def uncapitalized (name : String) : List Char := name.toList.modifyHead Char.toLower

/-- Whether two names are equal up to the case of their first character. -/
def SameButFirstCase (name other : String) : Prop := uncapitalized name = uncapitalized other

instance (name other : String) : Decidable (SameButFirstCase name other) :=
  inferInstanceAs (Decidable (uncapitalized name = uncapitalized other))

/-- The snake case of a single character. -/
def hump (c : Char) : List Char := if isCapital c then ['_', c.toLower] else [c]

/-- A text without an initial underscore. -/
def unmarked : List Char → List Char
  | '_' :: rest => rest
  | cs => cs

/-- Decodes snake case: the character after an underscore becomes a capital. `marked` tells whether
an underscore has just been read. -/
def camelFrom (marked : Bool) : List Char → List Char
  | [] => []
  | c :: rest =>
    if c = '_' then camelFrom true rest
    else (if marked then c.toUpper else c) :: camelFrom false rest

theorem toLower_of_not_isCapital {c : Char} (h : isCapital c = false) : c.toLower = c := by
  have hrange : ¬('A' ≤ c ∧ c ≤ 'Z') := by
    simpa [isCapital] using h
  exact dif_neg hrange

theorem map_toLower_marked (c : Char) :
    (if isCapital c then ['_', c] else [c]).map Char.toLower = hump c := by
  unfold hump
  cases hcapital : isCapital c with
  | true => rfl
  | false => simp [toLower_of_not_isCapital hcapital]

theorem unmarked_of_head {cs : List Char} (h : cs.head? ≠ some '_') : unmarked cs = cs := by
  unfold unmarked
  split
  · exact absurd rfl h
  · rfl

/-- For ASCII names, snake case concatenates the humps of the characters. -/
theorem underscore_eq {name : String} (h : ∀ c ∈ name.toList, c.toNat < 0x80) :
    underscore name = String.ofList (unmarked (name.toList.flatMap hump)) := by
  have hmarked : ∀ c ∈ name.toList.flatMap fun c => if isCapital c then ['_', c] else [c],
      c.toNat < 0x80 := by
    intro c hc
    obtain ⟨d, hd, hc⟩ := List.mem_flatMap.mp hc
    split at hc
    · rcases List.mem_pair.mp hc with rfl | rfl
      · decide
      · exact h c hd
    · exact List.mem_singleton.mp hc ▸ h d hd
  unfold underscore
  simp only [Text.lowerChars, Text.lowerFrom_of_ascii [] hmarked, List.map_flatMap,
    map_toLower_marked]
  rfl

theorem hump_of_isPlainChar {c : Char} (h : Sql.isPlainChar c = true) : hump c = [c] := by
  have hcapital : isCapital c = false := by
    have hrange := Sql.isPlainChar_toNat h
    refine Bool.eq_false_iff.mpr fun hcapital => ?_
    obtain ⟨hlow, hhigh⟩ : 65 ≤ c.toNat ∧ c.toNat ≤ 90 := by
      simpa [isCapital, Char.le_def, UInt32.le_iff_toNat_le] using hcapital
    omega
  simp [hump, hcapital]

/-- A name in snake case is unchanged. -/
theorem underscore_of_isSnakeCase {name : String} (h : IsSnakeCase name) :
    underscore name = name := by
  have hascii : ∀ c ∈ name.toList, c.toNat < 0x80 := by
    intro c hc
    have hrange := Sql.isPlainChar_toNat (h.plain c hc)
    omega
  have hhumps : name.toList.flatMap hump = name.toList :=
    calc name.toList.flatMap hump = name.toList.flatMap fun c => [c] :=
          List.flatMap_congr fun c hc => hump_of_isPlainChar (h.plain c hc)
      _ = name.toList := List.flatMap_singleton' name.toList
  rw [underscore_eq hascii, hhumps, unmarked_of_head h.start, String.ofList_toList]

section Entities

variable {c : Char} {name other : String}

/-- A property of the letters and digits of ASCII, decided for each of them. -/
theorem forall_isAlphanum {p : Char → Prop}
    (h : ∀ n : Fin 128, (Char.ofNat n).isAlphanum = true → p (Char.ofNat n))
    (hc : c.isAlphanum = true) : p c := by
  have hrange := Text.toNat_of_isAlphanum hc
  exact Text.forall_ascii (p := fun c => c.isAlphanum = true → p c) h (by omega) hc

/-- A letter or digit is decoded from its hump. -/
theorem camelFrom_hump (h : c.isAlphanum = true) (rest : List Char) :
    camelFrom false (hump c ++ rest) = c :: camelFrom false rest := by
  have hread : c ≠ '_' ∧ c.toLower ≠ '_' ∧ (isCapital c = true → c.toLower.toUpper = c) :=
    forall_isAlphanum
      (p := fun c => c ≠ '_' ∧ c.toLower ≠ '_' ∧ (isCapital c = true → c.toLower.toUpper = c))
      (by decide) h
  obtain ⟨hplain, hlower, hupper⟩ := hread
  unfold hump
  cases hcapital : isCapital c with
  | true => simp [camelFrom, hlower, hupper hcapital]
  | false => simp [camelFrom, hplain]

theorem camelFrom_flatMap_hump {cs : List Char} (h : ∀ c ∈ cs, c.isAlphanum = true) :
    camelFrom false (cs.flatMap hump) = cs := by
  induction cs with
  | nil => rfl
  | cons c rest ih =>
    have hrest := ih fun d hd => h d (List.mem_cons_of_mem c hd)
    rw [List.flatMap_cons, camelFrom_hump (h c List.mem_cons_self), hrest]

theorem all_isPlainChar_hump (h : c.isAlphanum = true) : (hump c).all Sql.isPlainChar = true :=
  forall_isAlphanum (p := fun c => (hump c).all Sql.isPlainChar = true) (by decide) h

/-- A letter or digit in lower case has a hump without underscore. -/
theorem hump_toLower (h : c.isAlphanum = true) :
    hump c.toLower = [c.toLower] ∧ c.toLower ≠ '_' :=
  forall_isAlphanum (p := fun c => hump c.toLower = [c.toLower] ∧ c.toLower ≠ '_') (by decide) h

theorem isAlphanum_of_mem_uncapitalized (h : IsEntityName name) :
    ∀ c ∈ uncapitalized name, c.isAlphanum = true := by
  unfold IsEntityName at h
  unfold uncapitalized
  cases hcs : name.toList with
  | nil => simp
  | cons first rest =>
    obtain ⟨hfirst, hrest⟩ := List.forall_mem_cons.mp (hcs ▸ h)
    have hlower : first.toLower.isAlphanum = true :=
      forall_isAlphanum (p := fun c => c.toLower.isAlphanum = true) (by decide) hfirst
    exact List.forall_mem_cons.mpr ⟨hlower, hrest⟩

/-- The table of an entity consists of the humps of its name, with the first character in lower
case. -/
theorem toList_underscore (h : IsEntityName name) :
    (underscore name).toList = (uncapitalized name).flatMap hump := by
  have hascii : ∀ c ∈ name.toList, c.toNat < 0x80 := by
    intro c hc
    have hrange := Text.toNat_of_isAlphanum (h c hc)
    omega
  rw [underscore_eq hascii, String.toList_ofList]
  unfold uncapitalized
  cases hcs : name.toList with
  | nil => rfl
  | cons first rest =>
    obtain ⟨hlower, hmark⟩ := hump_toLower (h first (hcs ▸ List.mem_cons_self))
    rw [List.modifyHead_cons, List.flatMap_cons, List.flatMap_cons, hlower]
    -- Only the hump of a capital begins with an underscore to remove.
    cases hcapital : isCapital first with
    | true => simp [hump, hcapital, unmarked]
    | false =>
      rw [toLower_of_not_isCapital hcapital] at hlower hmark ⊢
      rw [hlower]
      exact unmarked_of_head (by simpa using hmark)

/-- The name of an entity is decoded from its table, with the first character in lower case. -/
theorem camelFrom_underscore (h : IsEntityName name) :
    camelFrom false (underscore name).toList = uncapitalized name := by
  rw [toList_underscore h, camelFrom_flatMap_hump (isAlphanum_of_mem_uncapitalized h)]

/-- Two entities have the same table only if their names are equal up to the case of the first
character. -/
theorem underscore_eq_iff (hname : IsEntityName name) (hother : IsEntityName other) :
    underscore name = underscore other ↔ SameButFirstCase name other := by
  constructor
  · intro h
    calc uncapitalized name = camelFrom false (underscore name).toList :=
          (camelFrom_underscore hname).symm
      _ = camelFrom false (underscore other).toList := by rw [h]
      _ = uncapitalized other := camelFrom_underscore hother
  · intro h
    apply String.toList_inj.mp
    rw [toList_underscore hname, toList_underscore hother, h]

theorem isSnakeCase_underscore (h : IsEntityName name) : IsSnakeCase (underscore name) := by
  constructor
  · intro d hd
    rw [toList_underscore h] at hd
    obtain ⟨c, hc, hd⟩ := List.mem_flatMap.mp hd
    have hplain := all_isPlainChar_hump (isAlphanum_of_mem_uncapitalized h c hc)
    exact List.all_eq_true.mp hplain d hd
  · rw [toList_underscore h]
    unfold uncapitalized
    cases hcs : name.toList with
    | nil => simp
    | cons first rest =>
      obtain ⟨hlower, hmark⟩ := hump_toLower (h first (hcs ▸ List.mem_cons_self))
      rw [List.modifyHead_cons, List.flatMap_cons, hlower]
      simpa using hmark

/-- Whether a mapper is given for an entity, by its name or by the name of its table, without a
table of its own. -/
structure Mapper.IsFor (m : Mapper) (entity : String) : Prop where
  name : m.name = entity ∨ m.name = underscore entity
  table : ∀ table ∈ m.table, table = "" ∨ table = underscore entity

theorem Mapper.IsFor.tableName_eq {m : Mapper} (hm : m.IsFor name) (h : IsEntityName name) :
    m.tableName = underscore name := by
  have hnamed : underscore m.name = underscore name := by
    rcases hm.name with hname | hname
    · rw [hname]
    · rw [hname, underscore_of_isSnakeCase (isSnakeCase_underscore h)]
  unfold tableName
  cases htable : m.table with
  | none => exact hnamed
  | some table =>
    change (if table.isEmpty then underscore m.name else table) = underscore name
    split
    · exact hnamed
    · next hempty =>
      rcases hm.table table htable with rfl | hown
      · exact absurd rfl hempty
      · exact hown

end Entities

/-- Distinct entities have distinct tables. Two names of letters and digits have the same table
exactly when they are equal up to the case of their first character. The name of the table is in
snake case and is its own table, so mappers given by either name agree. -/
theorem tables_tell_entities_apart {name other : String} (hname : IsEntityName name)
    (hother : IsEntityName other) :
    (underscore name = underscore other ↔ SameButFirstCase name other) ∧
      IsSnakeCase (underscore name) ∧ underscore (underscore name) = underscore name ∧
      ∀ m n : Mapper, m.IsFor name → n.IsFor other →
        (m.tableName = n.tableName ↔ SameButFirstCase name other) := by
  have hsnake := isSnakeCase_underscore hname
  refine ⟨underscore_eq_iff hname hother, hsnake, underscore_of_isSnakeCase hsnake, ?_⟩
  intro m n hm hn
  rw [hm.tableName_eq hname, hn.tableName_eq hother]
  exact underscore_eq_iff hname hother

/-- Names with a run of capitals, and with a digit before one: they differ in the case of the second
character, and share a table if they differ in the case of the first only. -/
theorem tables_tell_entities_apart_capitals :
    IsEntityName "HTTPLog2X" ∧ IsEntityName "HttpLog2X" ∧ IsEntityName "hTTPLog2X" ∧
      underscore "HTTPLog2X" = "h_t_t_p_log2_x" ∧
      underscore "HTTPLog2X" = underscore "hTTPLog2X" ∧
      underscore "HTTPLog2X" ≠ underscore "HttpLog2X" ∧
      IsSnakeCase (underscore "HTTPLog2X") ∧
      underscore (underscore "HTTPLog2X") = underscore "HTTPLog2X" ∧
      (Mapper.ofName "HTTPLog2X").tableName = (Mapper.ofName "h_t_t_p_log2_x").tableName := by
  have hname : IsEntityName "HTTPLog2X" := by decide
  have hmixed : IsEntityName "HttpLog2X" := by decide
  have hlower : IsEntityName "hTTPLog2X" := by decide
  have htable : underscore "HTTPLog2X" = "h_t_t_p_log2_x" := by decide
  have hentity : (Mapper.ofName "HTTPLog2X").IsFor "HTTPLog2X" :=
    ⟨.inl rfl, by simp [Mapper.ofName]⟩
  have hplace : (Mapper.ofName "h_t_t_p_log2_x").IsFor "HTTPLog2X" :=
    ⟨.inr htable.symm, by simp [Mapper.ofName]⟩
  obtain ⟨happart, hsnake, hkept, -⟩ := tables_tell_entities_apart hname hmixed
  obtain ⟨hsame, -⟩ := tables_tell_entities_apart hname hlower
  obtain ⟨-, -, -, hmappers⟩ := tables_tell_entities_apart hname hname
  have hdiffer : underscore "HTTPLog2X" ≠ underscore "HttpLog2X" := fun h =>
    absurd (happart.mp h) (by decide)
  exact ⟨hname, hmixed, hlower, htable, hsame.mpr (by decide), hdiffer, hsnake, hkept,
    (hmappers _ _ hentity hplace).mpr rfl⟩

/-- An underscore in a name is not distinguished from that of a capital. -/
example : underscore "log_entry" = underscore "logEntry" := by decide

end SqlBridge.Schema
