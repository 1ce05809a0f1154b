import Mathlib.Data.List.TakeWhile
import SqlBridge.Document.Reader

/-!
Whole numbers read back from their digits. Only zero begins with the digit zero, and the text after
a number does not continue it, so all digits are read.
-/

namespace SqlBridge.Document

open Decimal

/-- Whether a text does not continue a number: it begins with no digit, point or exponent. -/
def endsNumber : List Char → Bool
  | [] => true
  | c :: _ => !(Text.isAsciiDigit c || c = '.' || c = 'e' || c = 'E')

theorem natOfChars_toDigits (n : ℕ) : natOfChars (Nat.toDigits 10 n) = n := by
  have hdigits : Nat.ofDigitChars 10 (Nat.toDigits 10 n) 0 = n := Nat.ofDigitChars_ten_toDigits
  rwa [Nat.ofDigitChars_eq_foldl] at hdigits

theorem isAsciiDigit_of_mem_toDigits {n : ℕ} :
    ∀ c ∈ Nat.toDigits 10 n, Text.isAsciiDigit c = true := by
  intro c hc
  have hdigit := Nat.isDigit_of_mem_toDigits (by decide) (by decide) hc
  simp only [Char.isDigit, Bool.and_eq_true, decide_eq_true_eq] at hdigit
  simp only [Text.isAsciiDigit, Bool.and_eq_true, decide_eq_true_eq]
  exact hdigit

/-- The first digit of a number other than zero is not zero. -/
theorem exists_toDigits_eq {n : ℕ} (hn : n ≠ 0) :
    ∃ c rest, Nat.toDigits 10 n = c :: rest ∧ c ≠ '0' := by
  induction n using Nat.strong_induction_on with
  | h n ih =>
    by_cases hsmall : n < 10
    · refine ⟨Nat.digitChar n, [], Nat.toDigits_of_lt_base hsmall, ?_⟩
      simpa using hn
    · obtain ⟨c, rest, hdigits, hc⟩ := ih (n / 10) (by omega) (by omega)
      refine ⟨c, rest ++ [Nat.digitChar (n % 10)], ?_, hc⟩
      rw [Nat.toDigits_of_base_le (by decide) (Nat.le_of_not_lt hsmall), hdigits, List.cons_append]

variable {rest : List Char}

theorem not_digit_of_endsNumber {c : Char} (h : endsNumber (c :: rest) = true) :
    Text.isAsciiDigit c = false := by
  simp only [endsNumber, Bool.not_eq_true', Bool.or_eq_false_iff] at h
  exact h.1.1.1

theorem takeWhile_digits (h : endsNumber rest = true) (n : ℕ) :
    (Nat.toDigits 10 n ++ rest).takeWhile Text.isAsciiDigit = Nat.toDigits 10 n ∧
      (Nat.toDigits 10 n ++ rest).dropWhile Text.isAsciiDigit = rest := by
  rw [List.takeWhile_append_of_pos isAsciiDigit_of_mem_toDigits,
    List.dropWhile_append_of_pos isAsciiDigit_of_mem_toDigits]
  cases rest with
  | nil => simp
  | cons c cs => simp [not_digit_of_endsNumber h]

/-- All digits of a number are its whole part. -/
theorem readWholePart_toDigits (h : endsNumber rest = true) (n : ℕ) :
    readWholePart (Nat.toDigits 10 n ++ rest) = some (Nat.toDigits 10 n, rest) := by
  by_cases hn : n = 0
  · subst hn
    rfl
  · obtain ⟨c, cs, hdigits, hc⟩ := exists_toDigits_eq hn
    have hdigit : Text.isAsciiDigit c = true :=
      isAsciiDigit_of_mem_toDigits c (hdigits ▸ List.mem_cons_self)
    obtain ⟨htake, hdrop⟩ := takeWhile_digits h n
    rw [hdigits, List.cons_append, List.takeWhile_cons_of_pos hdigit] at htake
    rw [hdigits, List.cons_append, List.dropWhile_cons_of_pos hdigit] at hdrop
    rw [hdigits, List.cons_append, readWholePart, if_neg hc, if_pos hdigit, hdrop]
    rw [htake]

/-- Whether a whole number has at most as many digits as a limit. -/
def fitsLimit (limit : Option ℕ) (n : Int) : Bool :=
  limit.all fun most => (Nat.toDigits 10 n.natAbs).length ≤ most

/-- Without a fraction or an exponent, the digits give a whole number. -/
theorem numberOf_toDigits (h : endsNumber rest = true) (negative : Bool) {limit : Option ℕ}
    {n : Int} (hn : fitsLimit limit n = true) :
    numberOf limit negative (Nat.toDigits 10 n.natAbs) rest =
      .ok (.int (if negative then -(n.natAbs : Int) else n.natAbs), rest) := by
  have hfraction : readFraction rest = ([], rest) := by
    unfold readFraction
    split
    · simp [endsNumber] at h
    · rfl
  have hexponent : readExponent rest = none := by
    cases rest with
    | nil => rfl
    | cons c cs =>
      simp only [endsNumber, Bool.not_eq_true', Bool.or_eq_false_iff, decide_eq_false_iff_not] at h
      simp [readExponent, h.1.2, h.2]
  unfold numberOf
  simp only [hfraction, hexponent, natOfChars_toDigits]
  cases limit with
  | none => rfl
  | some most =>
    have hfits : (Nat.toDigits 10 n.natAbs).length ≤ most := of_decide_eq_true hn
    simp only [if_neg (Nat.not_lt.mpr hfits)]
    rfl

/-- The digits of a number start with a digit. -/
theorem exists_digit_cons (n : ℕ) :
    ∃ c cs, Nat.toDigits 10 n = c :: cs ∧ Text.isAsciiDigit c = true := by
  obtain ⟨c, cs, hdigits⟩ := List.exists_cons_of_ne_nil (Nat.toDigits_ne_nil (n := n) (b := 10))
  exact ⟨c, cs, hdigits, isAsciiDigit_of_mem_toDigits c (hdigits ▸ List.mem_cons_self)⟩

theorem toList_intText (n : Int) :
    (intText n).toList = (if n < 0 then ['-'] else []) ++ Nat.toDigits 10 n.natAbs := by
  unfold intText natText
  split <;> simp

theorem readNumber_of_no_sign {c : Char} {cs : List Char} (hc : c ≠ '-') (limit : Option ℕ) :
    readNumber limit (c :: cs) =
      match readWholePart (c :: cs) with
      | some (whole, rest) => numberOf limit false whole rest
      | none => faultAt .expectedValue (c :: cs) := by
  unfold readNumber
  split
  next negative body hsign =>
    split at hsign
    · next heq => simp [hc] at heq
    · cases hsign
      rfl

theorem readNumber_intText (h : endsNumber rest = true) {limit : Option ℕ} {n : Int}
    (hn : fitsLimit limit n = true) :
    readNumber limit ((intText n).toList ++ rest) = .ok (.int n, rest) := by
  rw [toList_intText]
  by_cases hneg : n < 0
  · rw [if_pos hneg]
    change (match readWholePart (Nat.toDigits 10 n.natAbs ++ rest) with
      | some (whole, rest) => numberOf limit true whole rest
      | none => _) = _
    rw [readWholePart_toDigits h]
    simp only [numberOf_toDigits h true hn, if_true]
    congr 3
    omega
  · rw [if_neg hneg, List.nil_append]
    obtain ⟨c, cs, hdigits, hdigit⟩ := exists_digit_cons n.natAbs
    have hwhole := readWholePart_toDigits h n.natAbs
    have hnumber := numberOf_toDigits h false hn
    have hsign : c ≠ '-' := by
      rintro rfl
      exact absurd hdigit (by decide)
    rw [hdigits, List.cons_append] at hwhole ⊢
    rw [readNumber_of_no_sign hsign, hwhole, ← hdigits]
    simp only [hnumber, Bool.false_eq_true, if_false]
    congr 3
    omega

/-- The beginning of a written number: a digit, or a sign followed by a digit. -/
def BeginsNumber (cs : List Char) : Prop :=
  (∃ c rest, cs = c :: rest ∧ Text.isAsciiDigit c = true) ∨
    ∃ c rest, cs = '-' :: c :: rest ∧ Text.isAsciiDigit c = true

theorem beginsNumber_intText (n : Int) (rest : List Char) :
    BeginsNumber ((intText n).toList ++ rest) := by
  obtain ⟨c, cs, hdigits, hdigit⟩ := exists_digit_cons n.natAbs
  rw [toList_intText, hdigits]
  by_cases hneg : n < 0
  · exact Or.inr ⟨c, cs ++ rest, by simp [hneg], hdigit⟩
  · exact Or.inl ⟨c, cs ++ rest, by simp [hneg], hdigit⟩

/-- The literals for values begin with a letter, or with a sign and a letter. -/
theorem exists_word_eq {entry : String × Value} (h : entry ∈ words) :
    ∃ c d tail, entry.1.toList = c :: d :: tail ∧ Text.isAsciiDigit c = false ∧
      (c = '-' → Text.isAsciiDigit d = false) := by
  simp only [words, List.mem_cons, List.not_mem_nil, or_false] at h
  rcases h with rfl | rfl | rfl | rfl | rfl | rfl <;>
    exact ⟨_, _, _, rfl, by decide, by decide⟩

/-- No literal has the beginning of a number. -/
theorem readWord_of_beginsNumber {cs : List Char} (h : BeginsNumber cs) : readWord cs = none := by
  refine List.findSome?_eq_none_iff.mpr fun entry hentry => if_neg ?_
  intro hprefix
  obtain ⟨rest, rfl⟩ := List.isPrefixOf_iff_prefix.mp hprefix
  obtain ⟨c, d, tail, hword, hc, hd⟩ := exists_word_eq hentry
  rw [hword] at h
  rcases h with ⟨first, more, heq, hfirst⟩ | ⟨second, more, heq, hsecond⟩
  · obtain ⟨rfl, -⟩ := List.cons_eq_cons.mp heq
    simp [hc] at hfirst
  · obtain ⟨hsign, hmore⟩ := List.cons_eq_cons.mp heq
    obtain ⟨rfl, -⟩ := List.cons_eq_cons.mp hmore
    simp [hd hsign] at hsecond

/-- A number is read by its digits, with any fuel. -/
theorem readValue_of_beginsNumber {cs : List Char} (h : BeginsNumber cs) (limit : Option ℕ)
    (fuel : ℕ) : readValue limit (fuel + 1) cs = readNumber limit cs := by
  have hword := readWord_of_beginsNumber h
  unfold readValue
  split
  case h_4 => rw [hword]
  all_goals
    rcases h with ⟨c, rest, heq, hc⟩ | ⟨c, rest, heq, hc⟩
    · cases heq
      cases hc
    · cases heq

end SqlBridge.Document
