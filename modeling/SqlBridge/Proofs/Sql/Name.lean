import SqlBridge.Proofs.Outcome
import SqlBridge.Proofs.Text.Lower
import SqlBridge.Sql.Render

/-!
Plain names: a lower-case letter followed by lower-case letters, digits and underscores. A plain
name equals its lower-case form and is written bare unless it is reserved. The parameter names made
from it have no blank, so member lists under them are expanded.
-/

namespace SqlBridge.Sql

def isPlainChar (c : Char) : Bool :=
  ('a' ≤ c && c ≤ 'z') || ('0' ≤ c && c ≤ '9') || c = '_'

/-- A lower-case letter followed by lower-case letters, digits and underscores. -/
def isPlainName (name : String) : Bool :=
  match name.toList with
  | [] => false
  | c :: rest => ('a' ≤ c && c ≤ 'z') && rest.all isPlainChar

theorem isPlainChar_toNat {c : Char} (h : isPlainChar c = true) :
    (97 ≤ c.toNat ∧ c.toNat ≤ 122) ∨ (48 ≤ c.toNat ∧ c.toNat ≤ 57) ∨ c.toNat = 95 := by
  simp only [isPlainChar, Bool.or_eq_true, Bool.and_eq_true, decide_eq_true_eq] at h
  rcases h with (⟨hlow, hhigh⟩ | ⟨hlow, hhigh⟩) | rfl
  · exact Or.inl ⟨hlow, hhigh⟩
  · exact Or.inr (Or.inl ⟨hlow, hhigh⟩)
  · exact Or.inr (Or.inr rfl)

theorem isPlainName_all {name : String} (h : isPlainName name = true) :
    ∀ c ∈ name.toList, isPlainChar c = true := by
  unfold isPlainName at h
  cases hcs : name.toList with
  | nil => simp
  | cons first rest =>
    simp only [hcs, Bool.and_eq_true, List.all_eq_true] at h
    intro c hc
    rcases List.mem_cons.mp hc with rfl | hrest
    · simp [isPlainChar, h.1]
    · exact h.2 c hrest

/-- The first character of a plain name is a letter. -/
theorem isPlainName_head {name : String} (h : isPlainName name = true) :
    ∃ first rest, name.toList = first :: rest ∧ 97 ≤ first.toNat ∧ first.toNat ≤ 122 := by
  unfold isPlainName at h
  cases hcs : name.toList with
  | nil => simp [hcs] at h
  | cons first rest =>
    simp only [hcs, Bool.and_eq_true, decide_eq_true_eq] at h
    exact ⟨first, rest, rfl, h.1.1, h.1.2⟩

theorem toLower_of_isPlainChar {c : Char} (h : isPlainChar c = true) : c.toLower = c := by
  have hrange := isPlainChar_toNat h
  have hupper : ¬ ('A' ≤ c ∧ c ≤ 'Z') := by
    rintro ⟨hlow, hhigh⟩
    have hlow' : 65 ≤ c.toNat := hlow
    have hhigh' : c.toNat ≤ 90 := hhigh
    omega
  unfold Char.toLower
  exact dif_neg hupper

theorem lowerFrom_of_plain (cs : List Char) (h : ∀ c ∈ cs, isPlainChar c = true)
    (before : List Char) : Text.lowerFrom before cs = cs := by
  have hascii : ∀ c ∈ cs, c.toNat < 0x80 := by
    intro c hc
    have hrange := isPlainChar_toNat (h c hc)
    omega
  rw [Text.lowerFrom_of_ascii before hascii]
  exact (List.map_congr_left fun c hc => toLower_of_isPlainChar (h c hc)).trans (List.map_id' cs)

theorem isNameChar_of_isPlainChar {c : Char} (h : isPlainChar c = true) : isNameChar c = true := by
  simp only [isPlainChar, Bool.or_eq_true, Bool.and_eq_true, decide_eq_true_eq] at h
  rcases h with (⟨hlow, hhigh⟩ | ⟨hlow, hhigh⟩) | rfl
  · have hlower : c.isLower = true :=
      (Bool.and_eq_true _ _).mpr ⟨decide_eq_true hlow, decide_eq_true hhigh⟩
    have halphanum : c.isAlphanum = (c.isUpper || c.isLower || c.isDigit) := rfl
    simp [isNameChar, halphanum, hlower]
  · have hdigit : c.isDigit = true :=
      (Bool.and_eq_true _ _).mpr ⟨decide_eq_true hlow, decide_eq_true hhigh⟩
    have halphanum : c.isAlphanum = (c.isAlpha || c.isDigit) := rfl
    simp [isNameChar, halphanum, hdigit]
  · decide

theorem withoutLastLineFeed_of_plain {cs : List Char} (h : ∀ c ∈ cs, isPlainChar c = true) :
    withoutLastLineFeed cs = cs := by
  unfold withoutLastLineFeed
  split
  · next rest hreverse =>
    have hmem : '\n' ∈ cs := by
      rw [← List.mem_reverse, hreverse]
      exact List.mem_cons_self
    exact absurd (h '\n' hmem) (by decide)
  · rfl

theorem doubleQuotes_of_plain {cs : List Char} (h : ∀ c ∈ cs, isPlainChar c = true) :
    doubleQuotes cs = cs := by
  induction cs with
  | nil => rfl
  | cons c rest ih =>
    have hc : ¬ c = '"' := by
      rintro rfl
      exact absurd (h '"' List.mem_cons_self) (by decide)
    have hrest := ih fun d hd => h d (List.mem_cons_of_mem c hd)
    simp only [doubleQuotes] at hrest
    simp [doubleQuotes, hc, hrest]

/-- A plain name needs quotes only if it is reserved. -/
theorem needsQuotes_of_isPlainName {name : String} (h : isPlainName name = true) :
    needsQuotes name = reservedWords.contains name := by
  have hall := isPlainName_all h
  obtain ⟨first, rest, hcs, hlow, hhigh⟩ := isPlainName_head h
  have hstart : startsBadly name.toList = false := by
    have hdigit : ¬ first ≤ '9' := by
      intro hle
      have hle' : first.toNat ≤ 57 := hle
      omega
    have hdollar : ¬ first = '$' := by
      rintro rfl
      simp at hlow
    simp [hcs, startsBadly, Text.isAsciiDigit, hdigit, hdollar]
  have honly : hasOnlyNameChars name.toList = true := by
    have hchars : name.toList.all isNameChar = true :=
      List.all_eq_true.mpr fun c hc => isNameChar_of_isPlainChar (hall c hc)
    have hne : name.toList.isEmpty = false := by simp [hcs]
    simp only [hasOnlyNameChars, withoutLastLineFeed_of_plain hall, hchars, hne]
    rfl
  have hlowered : Text.lowerChars name.toList = name.toList := lowerFrom_of_plain _ hall []
  simp [needsQuotes, hstart, honly, hlowered]

/-- The text of a plain name: bare, or between quotes when it is reserved. -/
def written (name : String) : String :=
  if reservedWords.contains name then "\"" ++ name ++ "\"" else name

theorem identifier_of_isPlainName {name : String} (h : isPlainName name = true) :
    identifier name = written name := by
  unfold identifier written
  rw [needsQuotes_of_isPlainName h]
  split
  · rw [doubleQuotes_of_plain (isPlainName_all h), List.cons_append]
    apply String.toList_injective
    simp
  · rfl

theorem not_isBlank_of_isPlainChar {c : Char} (h : isPlainChar c = true) :
    Text.isBlank c = false := by
  have hrange := isPlainChar_toNat h
  simp only [Text.isBlank, Text.isSpace, Text.inRanges, Text.spaceRanges, List.any_cons,
    List.any_nil, Bool.or_eq_false_iff, Bool.and_eq_false_iff, decide_eq_false_iff_not, and_true]
  omega

theorem not_mem_of_isPlainChar {cs : List Char} (hnone : cs.any isPlainChar = false) {c : Char}
    (h : isPlainChar c = true) : c ∉ cs := by
  intro hc
  exact List.any_eq_false.mp hnone c hc h

theorem isBaseSeparator_of_isPlainChar {c : Char} (h : isPlainChar c = true) :
    isBaseSeparator c = false := by
  have hnone : ("%() $.[]:".toList.any isPlainChar) = false := by decide
  simpa [isBaseSeparator] using not_mem_of_isPlainChar hnone h

theorem replaceRuns_of_plain (cs : List Char) (h : ∀ c ∈ cs, isPlainChar c = true)
    (inRun : Bool) : replaceRuns inRun cs = cs := by
  induction cs generalizing inRun with
  | nil => rfl
  | cons c rest ih =>
    have hc := isBaseSeparator_of_isPlainChar (h c List.mem_cons_self)
    simp [replaceRuns, hc, ih fun d hd => h d (List.mem_cons_of_mem c hd)]

theorem mem_of_mem_trimBy {p : Char → Bool} {cs : List Char} {c : Char}
    (h : c ∈ Text.trimBy p cs) : c ∈ cs := by
  have hend := (List.dropWhile_sublist p).mem (List.mem_reverse.mp h)
  exact (List.dropWhile_sublist p).mem (List.mem_reverse.mp hend)

theorem bindBase_plain {name : String} (h : isPlainName name = true) :
    ∀ c ∈ (bindBase name).toList, isPlainChar c = true := by
  have hall := isPlainName_all h
  intro c hc
  simp only [bindBase, String.toList_ofList, replaceRuns_of_plain _ hall] at hc
  exact hall c (mem_of_mem_trimBy hc)

theorem natText_plain (n : ℕ) : ∀ c ∈ (Decimal.natText n).toList, isPlainChar c = true := by
  intro c hc
  simp only [Decimal.natText, String.toList_ofList] at hc
  have hdigit := Nat.isDigit_of_mem_toDigits (by decide) (by decide) hc
  simp only [Char.isDigit, Bool.and_eq_true, decide_eq_true_eq] at hdigit
  have hrange : '0' ≤ c ∧ c ≤ '9' := hdigit
  simp [isPlainChar, hrange.1, hrange.2]

/-- A parameter of a column with a plain name is expanded to the members of its list. -/
theorem expands_of_isPlainName {name : String} (h : isPlainName name = true) (n : ℕ) :
    expands (bindBase name ++ "_" ++ Decimal.natText n) = true := by
  unfold expands
  apply List.all_eq_true.mpr
  intro c hc
  have hplain : isPlainChar c = true := by
    simp only [String.toList_append, List.mem_append] at hc
    rcases hc with (hbase | hmark) | hnumber
    · exact bindBase_plain h c hbase
    · have hc : c = '_' := by simpa using hmark
      rw [hc]
      decide
    · exact natText_plain n c hnumber
  simp [not_isBlank_of_isPlainChar hplain]

/-- Whether a name has no separator that is replaced where names are escaped. -/
def isPlainBind (name : String) : Bool := name.toList.all fun c => !"%():.[] ".toList.contains c

theorem isPlainBind_append (name more : String) :
    isPlainBind (name ++ more) = (isPlainBind name && isPlainBind more) := by
  simp only [isPlainBind, String.toList_append, List.all_append]

theorem isPlainBind_of_forall {name : String} (h : ∀ c ∈ name.toList, isPlainChar c = true) :
    isPlainBind name = true := by
  have hnone : ("%():.[] ".toList.any isPlainChar) = false := by decide
  refine List.all_eq_true.mpr fun c hc => ?_
  simpa using not_mem_of_isPlainChar hnone (h c hc)

/-- A plain name has no separator. -/
theorem isPlainBind_of_isPlainName {name : String} (h : isPlainName name = true) :
    isPlainBind name = true := isPlainBind_of_forall (isPlainName_all h)

/-- A separator is replaced by a character that is not one; every other character is kept. -/
theorem escapedChar_cases (c : Char) :
    escapedChar c ∉ "%():.[] ".toList ∧ (c ∉ "%():.[] ".toList → escapedChar c = c) := by
  unfold escapedChar
  split <;> simp_all

theorem isPlainBind_escaped (name : BindName) : isPlainBind name.escaped.text = true := by
  refine List.all_eq_true.mpr fun c hc => ?_
  simp only [BindName.escaped, String.toList_ofList, List.mem_map] at hc
  obtain ⟨d, -, rfl⟩ := hc
  simpa using (escapedChar_cases d).1

theorem escaped_of_isPlainBind {name : BindName} (h : isPlainBind name.text = true) :
    name.escaped = name := by
  have hsame : name.text.toList.map escapedChar = name.text.toList := by
    refine (List.map_congr_left fun c hc => ?_).trans (List.map_id _)
    exact (escapedChar_cases c).2 (by simpa using List.all_eq_true.mp h c hc)
  unfold BindName.escaped
  rw [hsame, String.ofList_toList]

end SqlBridge.Sql
