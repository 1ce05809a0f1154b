import Mathlib.Data.List.Forall2
import SqlBridge.Settings

/-!
Settings that differ in their token only. Two sources with the same entries except for the token
have the same issues, or both give settings, which differ in their token at most.
-/

namespace SqlBridge.Settings

open Validation

variable {α : Type} {a a' : α}

/-- The names of the token setting, in any case. -/
def isTokenName (name : String) : Bool :=
  Text.lower name = Text.lower "D1_API_TOKEN" || Text.lower name = Text.lower "api_token"

/-- Equal entries, or entries of the two tokens. -/
def EntryTwins (a a' : α) (entry entry' : String × α) : Prop :=
  entry.1 = entry'.1 ∧
    (entry.2 = entry'.2 ∨ isTokenName entry.1 = true ∧ entry.2 = a ∧ entry'.2 = a')

/-- Sources with the same entries except for the token. -/
structure Sources.Twins (token token' : String) (s s' : Sources) : Prop where
  arguments : List.Forall₂ (EntryTwins (.text token) (.text token')) s.arguments s'.arguments
  environment : List.Forall₂ (EntryTwins token token') s.environment s'.environment
  file : List.Forall₂ (EntryTwins token token') s.file s'.file

/-- Lookups with the same result, or with the two tokens. -/
def Swapped (a a' : α) (o o' : Option α) : Prop := o = o' ∨ o = some a ∧ o' = some a'

theorem Swapped.or {o o' p p' : Option α} (h : Swapped a a' o o') (hp : Swapped a a' p p') :
    Swapped a a' (o.or p) (o'.or p') := by
  rcases h with rfl | ⟨rfl, rfl⟩
  · cases o with
    | none => exact hp
    | some v => exact .inl rfl
  · exact .inr ⟨rfl, rfl⟩

/-- The value of the first entry whose name satisfies `p`. -/
def said (p : String → Bool) (entries : List (String × α)) : Option α :=
  (entries.find? fun entry => p entry.1).map (·.2)

theorem said_cons (p : String → Bool) (entry : String × α) (rest : List (String × α)) :
    said p (entry :: rest) = if p entry.1 then some entry.2 else said p rest := by
  unfold said
  rw [List.find?_cons]
  cases p entry.1 <;> rfl

/-- A lookup has the same result, unless it is by a name of the token. -/
theorem said_twins {entries entries' : List (String × α)}
    (h : List.Forall₂ (EntryTwins a a') entries entries') (p : String → Bool) :
    said p entries = said p entries' ∨
      (∃ name, p name = true ∧ isTokenName name = true) ∧
        said p entries = some a ∧ said p entries' = some a' := by
  induction h with
  | nil => exact .inl rfl
  | @cons entry entry' rest rest' hentry _ ih =>
    obtain ⟨hname, hvalue⟩ := hentry
    simp only [said_cons, ← hname]
    by_cases hp : p entry.1 = true
    · rw [if_pos hp, if_pos hp]
      rcases hvalue with hsame | ⟨htoken, ha, ha'⟩
      · exact .inl (congrArg some hsame)
      · exact .inr ⟨⟨_, hp, htoken⟩, congrArg some ha, congrArg some ha'⟩
    · rw [if_neg hp, if_neg hp]
      exact ih

theorem swapped_said {entries entries' : List (String × α)}
    (h : List.Forall₂ (EntryTwins a a') entries entries') (p : String → Bool) :
    Swapped a a' (said p entries) (said p entries') :=
  (said_twins h p).imp_right And.right

/-- A lookup by other names has the same result. -/
theorem said_eq {entries entries' : List (String × α)}
    (h : List.Forall₂ (EntryTwins a a') entries entries') {p : String → Bool}
    (hp : ∀ name, p name = true → isTokenName name = false) :
    said p entries = said p entries' := by
  rcases said_twins h p with hsame | ⟨⟨name, hname, htoken⟩, -⟩
  · exact hsame
  · rw [hp name hname] at htoken
    cases htoken

theorem get?_eq_said (name : String) (fields : Fields α) :
    fields.get? name = said (fun other => other = name) fields := by
  induction fields with
  | nil => rfl
  | cons field rest ih =>
    rw [said_cons, ← ih, Fields.get?]
    simp only [decide_eq_true_eq]

theorem named?_eq_said (name : String) (entries : List (String × String)) :
    named? name entries =
      said (fun other => Text.lower other = Text.lower name) entries.reverse := rfl

section Sources

variable {token token' : String} {s s' : Sources}

theorem swapped_textOf {entries entries' : List (String × String)}
    (h : List.Forall₂ (EntryTwins token token') entries entries') (shown plain : String) :
    Swapped token token' (textOf? shown plain entries) (textOf? shown plain entries') := by
  have hreverse := List.forall₂_reverse_iff.mpr h
  unfold textOf?
  simp only [named?_eq_said]
  exact (swapped_said hreverse _).or (swapped_said hreverse _)

theorem textOf_eq {entries entries' : List (String × String)}
    (h : List.Forall₂ (EntryTwins token token') entries entries') {shown plain : String}
    (hshown : isTokenName shown = false) (hplain : isTokenName plain = false) :
    textOf? shown plain entries = textOf? shown plain entries' := by
  have hreverse := List.forall₂_reverse_iff.mpr h
  have hnamed : ∀ name, isTokenName name = false → named? name entries = named? name entries' := by
    intro name hname
    rw [named?_eq_said, named?_eq_said]
    refine said_eq hreverse fun other hother => ?_
    rw [decide_eq_true_eq] at hother
    unfold isTokenName at hname ⊢
    rwa [hother]
  unfold textOf?
  rw [hnamed shown hshown, hnamed plain hplain]

/-- A setting other than the token is the same. -/
theorem setting_eq (h : s.Twins token token' s') {shown plain : String}
    (hshown : isTokenName shown = false) (hplain : isTokenName plain = false) (default : α)
    (read : Value → Checked α) :
    setting s shown plain default read = setting s' shown plain default read := by
  have hget : ∀ name, isTokenName name = false →
      s.arguments.get? name = s'.arguments.get? name := by
    intro name hname
    rw [get?_eq_said, get?_eq_said]
    refine said_eq h.arguments fun other hother => ?_
    rw [decide_eq_true_eq] at hother
    rwa [hother]
  unfold setting Sources.find?
  rw [hget shown hshown, hget plain hplain, textOf_eq h.environment hshown hplain,
    textOf_eq h.file hshown hplain]

/-- A text setting is the same, or has the two tokens. -/
theorem setting_text (h : s.Twins token token' s') (shown plain default : String) :
    setting s shown plain default text = setting s' shown plain default text ∨
      setting s shown plain default text = .ok token ∧
        setting s' shown plain default text = .ok token' := by
  have hshown := swapped_said h.arguments fun other => other = shown
  have hplain := swapped_said h.arguments fun other => other = plain
  have htext := (swapped_textOf h.environment shown plain).or (swapped_textOf h.file shown plain)
  rw [← get?_eq_said, ← get?_eq_said] at hshown hplain
  unfold setting Sources.find?
  rcases hshown with hshown | ⟨hs, hs'⟩
  · rw [hshown]
    cases s'.arguments.get? shown with
    | some v => exact .inl rfl
    | none =>
      rcases hplain with hplain | ⟨hp, hp'⟩
      · rw [hplain]
        cases s'.arguments.get? plain with
        | some v => exact .inl rfl
        | none =>
          rcases htext with htext | ⟨ht, ht'⟩
          · rw [htext]
            exact .inl rfl
          · rw [ht, ht']
            exact .inr ⟨rfl, rfl⟩
      · rw [hp, hp']
        exact .inr ⟨rfl, rfl⟩
  · rw [hs, hs']
    exact .inr ⟨rfl, rfl⟩

end Sources

/-- The settings with another token. -/
def withToken (x : Settings) (token : String) : Settings := { x with apiToken := token }

/-- Sources that differ in a token have the same issues, or give settings that differ in that token
at most. -/
theorem read_twins {token token' : String} {s s' : Sources} (h : s.Twins token token' s') :
    read s' = read s ∨
      read s' = (read s).map (·.withToken token') ∧ ∀ x, read s = .ok x → x.apiToken = token := by
  have hsame : ∀ {α : Type} (shown plain : String) (default : α) (read : Value → Checked α),
      isTokenName shown = false → isTokenName plain = false →
        setting s' shown plain default read = setting s shown plain default read :=
    fun shown plain default read hshown hplain => (setting_eq h hshown hplain default read).symm
  unfold read
  simp (disch := decide +kernel) only [hsame]
  rcases setting_text h "D1_API_TOKEN" "api_token" "" with hsetting | ⟨hsetting, hsetting'⟩
  · rw [hsetting]
    exact .inl rfl
  · rw [hsetting, hsetting']
    right
    generalize setting s "D1_ACCOUNT_ID" "account_id" "" text = account
    generalize setting s "D1_DATABASE_ID" "database_id" "" text = database
    generalize both (setting s "D1_API_BASE_URL" "api_base_url" defaultBaseUrl text) _ = rest
    -- The settings before and after the token are the same, with issues or without.
    refine ⟨?_, fun x hx => ?_⟩
    · cases account <;> cases database <;> cases rest <;> rfl
    · cases account <;> cases database <;> cases rest <;> cases hx
      rfl

end SqlBridge.Settings
