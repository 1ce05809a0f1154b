import SqlBridge.Proofs.Sql.Name

/-!
Placeholders of statements: the question marks outside quoted names. A text that closes its quotes
can be scanned piece by piece, so a statement composed of pieces with as many placeholders as
parameters has as many placeholders as parameters. Names contribute none, whatever their characters.
-/

namespace SqlBridge.Sql

/-- The number of question marks outside double quotes. -/
def placeholders (quoted : Bool) : List Char → ℕ
  | [] => 0
  | c :: rest =>
    if c = '"' then placeholders (!quoted) rest
    else if c = '?' ∧ quoted = false then placeholders quoted rest + 1
    else placeholders quoted rest

/-- Whether a quote is open after a text. A doubled quote closes and reopens it. -/
def quoteAfter (quoted : Bool) : List Char → Bool
  | [] => quoted
  | c :: rest => if c = '"' then quoteAfter (!quoted) rest else quoteAfter quoted rest

def placeholderCount (text : String) : ℕ := placeholders false text.toList

theorem quoteAfter_append (quoted : Bool) (cs ds : List Char) :
    quoteAfter quoted (cs ++ ds) = quoteAfter (quoteAfter quoted cs) ds := by
  induction cs generalizing quoted with
  | nil => rfl
  | cons c rest ih =>
    by_cases hc : c = '"'
    · simp [quoteAfter, hc, ih]
    · simp [quoteAfter, hc, ih]

theorem placeholders_append (quoted : Bool) (cs ds : List Char) :
    placeholders quoted (cs ++ ds) =
      placeholders quoted cs + placeholders (quoteAfter quoted cs) ds := by
  induction cs generalizing quoted with
  | nil => simp [placeholders, quoteAfter]
  | cons c rest ih =>
    by_cases hc : c = '"'
    · simp [placeholders, quoteAfter, hc, ih]
    · by_cases hmark : c = '?' ∧ quoted = false
      · simp only [List.cons_append, placeholders, quoteAfter, if_neg hc, if_pos hmark, ih]
        omega
      · simp only [List.cons_append, placeholders, quoteAfter, if_neg hc, if_neg hmark, ih]

/-- A text with `n` placeholders that closes all its quotes. -/
def Counts (text : String) (n : ℕ) : Prop :=
  placeholders false text.toList = n ∧ quoteAfter false text.toList = false

instance (text : String) (n : ℕ) : Decidable (Counts text n) := by
  unfold Counts
  infer_instance

theorem Counts.append {s t : String} {m n : ℕ} (hs : Counts s m) (ht : Counts t n) :
    Counts (s ++ t) (m + n) := by
  unfold Counts at *
  rw [String.toList_append, placeholders_append, quoteAfter_append, hs.2, hs.1, ht.1, ht.2]
  exact ⟨rfl, rfl⟩

/-- Characters other than quotes and question marks do not count. -/
theorem counts_zero_of_forall {cs : List Char} (h : ∀ c ∈ cs, c ≠ '"' ∧ c ≠ '?') :
    placeholders false cs = 0 ∧ quoteAfter false cs = false := by
  induction cs with
  | nil => exact ⟨rfl, rfl⟩
  | cons c rest ih =>
    obtain ⟨hquote, hmark⟩ := h c List.mem_cons_self
    have hrest := ih fun d hd => h d (List.mem_cons_of_mem c hd)
    simpa [placeholders, quoteAfter, hquote, hmark] using hrest

theorem mem_withoutLastLineFeed {cs : List Char} {c : Char} (h : c ∈ cs) :
    c ∈ withoutLastLineFeed cs ∨ c = '\n' := by
  unfold withoutLastLineFeed
  split
  · next rest hreverse =>
    have hmem : c ∈ '\n' :: rest := by
      rw [← hreverse]
      exact List.mem_reverse.mpr h
    rcases List.mem_cons.mp hmem with hfeed | hrest
    · exact Or.inr hfeed
    · exact Or.inl (List.mem_reverse.mpr hrest)
  · exact Or.inl h

/-- A bare name consists of name characters only, except for a line feed at the end. -/
theorem isNameChar_of_not_needsQuotes {name : String} (h : needsQuotes name = false) :
    ∀ c ∈ name.toList, isNameChar c = true ∨ c = '\n' := by
  simp only [needsQuotes, hasOnlyNameChars, Bool.or_eq_false_iff, Bool.not_eq_false',
    Bool.and_eq_true, List.all_eq_true] at h
  intro c hc
  rcases mem_withoutLastLineFeed hc with hbody | hfeed
  · exact Or.inl (h.1.1.2.2 c hbody)
  · exact Or.inr hfeed

/-- A quoted name has no placeholders, and its doubled quotes leave the outer one open. -/
theorem placeholders_doubleQuotes (cs : List Char) :
    placeholders true (doubleQuotes cs) = 0 ∧ quoteAfter true (doubleQuotes cs) = true := by
  induction cs with
  | nil => exact ⟨rfl, rfl⟩
  | cons c rest ih =>
    simp only [doubleQuotes] at ih
    by_cases hc : c = '"'
    · simpa [doubleQuotes, hc, placeholders, quoteAfter] using ih
    · simpa [doubleQuotes, hc, placeholders, quoteAfter] using ih

theorem counts_identifier (name : String) : Counts (identifier name) 0 := by
  unfold identifier
  cases hquotes : needsQuotes name with
  | false =>
    have hchars : ∀ c ∈ name.toList, c ≠ '"' ∧ c ≠ '?' := by
      intro c hc
      rcases isNameChar_of_not_needsQuotes hquotes c hc with hname | rfl
      · constructor
        · rintro rfl
          exact absurd hname (by decide)
        · rintro rfl
          exact absurd hname (by decide)
      · decide
    exact counts_zero_of_forall hchars
  | true =>
    obtain ⟨hnone, hopen⟩ := placeholders_doubleQuotes name.toList
    have hcount : placeholders true (doubleQuotes name.toList ++ ['"']) = 0 := by
      rw [placeholders_append, hnone, hopen]
      rfl
    have hclosed : quoteAfter true (doubleQuotes name.toList ++ ['"']) = false := by
      rw [quoteAfter_append, hopen]
      rfl
    simpa [Counts, placeholders, quoteAfter] using And.intro hcount hclosed

namespace Fragment

variable {α : Type}

@[simp] theorem text_append (a b : Fragment α) : (a ++ b).text = a.text ++ b.text := rfl

@[simp] theorem params_append (a b : Fragment α) : (a ++ b).params = a.params ++ b.params := rfl

@[simp] theorem text_ofText (text : String) : (ofText text : Fragment α).text = text := rfl

@[simp] theorem params_ofText (text : String) : (ofText text : Fragment α).params = [] := rfl

theorem mk_append_mk (s t : String) (ps qs : List α) :
    (⟨s, ps⟩ : Fragment α) ++ ⟨t, qs⟩ = ⟨s ++ t, ps ++ qs⟩ := rfl

theorem text_join (separator : String) (fragments : List (Fragment α)) :
    (join separator fragments).text = separator.intercalate (fragments.map (·.text)) := by
  induction fragments with
  | nil => rfl
  | cons a rest ih =>
    cases rest with
    | nil => simp [join]
    | cons b more =>
      have htail : (join separator (b :: more)).text =
          separator.intercalate (b.text :: more.map (·.text)) := by simpa using ih
      simp [join, htail, String.append_assoc]

theorem params_join (separator : String) (fragments : List (Fragment α)) :
    (join separator fragments).params = fragments.flatMap (·.params) := by
  induction fragments with
  | nil => rfl
  | cons a rest ih =>
    cases rest with
    | nil => simp [join]
    | cons b more => simpa [join] using ih

/-- A fragment with as many placeholders as parameters that closes all its quotes. -/
def Aligned (f : Fragment α) : Prop := Counts f.text f.params.length

theorem aligned_ofText {text : String} (h : Counts text 0) : (ofText text : Fragment α).Aligned := h

theorem Aligned.append {a b : Fragment α} (ha : a.Aligned) (hb : b.Aligned) :
    (a ++ b).Aligned := by
  unfold Aligned
  rw [text_append, params_append, List.length_append]
  exact Counts.append ha hb

theorem aligned_join {separator : String} {fragments : List (Fragment α)}
    (hseparator : Counts separator 0) (h : ∀ f ∈ fragments, f.Aligned) :
    (join separator fragments).Aligned := by
  induction fragments with
  | nil => exact aligned_ofText (by decide)
  | cons a rest ih =>
    have ha := h a List.mem_cons_self
    have hrest := ih fun f hf => h f (List.mem_cons_of_mem a hf)
    cases rest with
    | nil => exact ha
    | cons b more => exact (ha.append (aligned_ofText hseparator)).append hrest

/-- A draft with the values of its bind parameters. -/
def values (f : Fragment Slot) : Fragment Value := ⟨f.text, f.params.map Slot.value⟩

@[simp] theorem text_values (f : Fragment Slot) : f.values.text = f.text := rfl

@[simp] theorem params_values (f : Fragment Slot) :
    f.values.params = f.params.map Slot.value := rfl

@[simp] theorem values_ofText (text : String) : (ofText text).values = ofText text := rfl

@[simp] theorem values_append (a b : Fragment Slot) : (a ++ b).values = a.values ++ b.values := by
  change (⟨a.text ++ b.text, (a.params ++ b.params).map Slot.value⟩ : Fragment Value) =
    ⟨a.text ++ b.text, a.params.map Slot.value ++ b.params.map Slot.value⟩
  rw [List.map_append]

theorem values_join (separator : String) (fragments : List (Fragment Slot)) :
    (join separator fragments).values = join separator (fragments.map values) := by
  induction fragments with
  | nil => rfl
  | cons a rest ih =>
    cases rest with
    | nil => rfl
    | cons b more =>
      change (a ++ ofText separator ++ join separator (b :: more)).values = _
      rw [values_append, values_append, ih]
      rfl

end Fragment

section

variable {α : Type}

theorem aligned_placeholder (a : α) : (placeholder a).Aligned := by
  have hmark : Counts "?" 1 := by decide
  exact hmark

/-- The text of a group depends on the number of its parameters only. -/
theorem text_group (params : List α) :
    (group params).text =
      "(" ++ ", ".intercalate (List.replicate params.length "?") ++ ")" := by
  simp [group, Fragment.text_join, Function.comp_def, placeholder, List.map_const']

theorem params_group (params : List α) : (group params).params = params := by
  simp [group, Fragment.params_join, List.flatMap_map, placeholder]

theorem aligned_group (params : List α) : (group params).Aligned := by
  have hmembers : ∀ f ∈ params.map placeholder, f.Aligned := by
    intro f hf
    obtain ⟨a, -, rfl⟩ := List.mem_map.mp hf
    exact aligned_placeholder a
  exact ((Fragment.aligned_ofText (by decide)).append
    (Fragment.aligned_join (by decide) hmembers)).append (Fragment.aligned_ofText (by decide))

end

theorem values_group (slots : List Slot) :
    (group slots).values = group (slots.map Slot.value) := by
  have hmembers : (slots.map placeholder).map Fragment.values =
      (slots.map Slot.value).map placeholder := by
    simp [Function.comp_def, Fragment.values, placeholder]
  simp only [group, Fragment.values_append, Fragment.values_ofText, Fragment.values_join, hmembers]

@[simp] theorem map_value_memberSlots (name : String) (place : List ℕ) (values : List Value) :
    (memberSlots name place values).map Slot.value = values := by
  simp [memberSlots, Function.comp_def]

/-- The conditions of a draft with the values of their bind parameters. -/
theorem values_whereClause (lead : String) (fragments : List (Fragment Slot)) :
    (whereClause lead fragments).values = whereClause lead (fragments.map Fragment.values) := by
  cases fragments with
  | nil => rfl
  | cons f rest => simp [whereClause, Fragment.values_join]

end SqlBridge.Sql
