import Mathlib.Data.List.TakeWhile
import SqlBridge.Document.Reader
import SqlBridge.Document.Writer

/-!
Reading after writing for texts. The reader turns the written form of a character into that
character: the character itself, a short escape, or the escapes of its UTF-16 units. The text after
the closing quote does not matter.
-/

namespace SqlBridge.Document

theorem hexValue?_digitChar : ∀ d < 16, hexValue? (Nat.digitChar d) = some d := by decide

/-- A leading digit adds a multiple of a power of sixteen. -/
theorem hex_succ {width : ℕ} (hwidth : 0 < width) (n : ℕ) :
    Text.hex (width + 1) n = Text.hex width (n / 16) ++ [Nat.digitChar (n % 16)] := by
  unfold Text.hex
  by_cases hsmall : n < 16
  · have hzero : n / 16 = 0 := Nat.div_eq_of_lt hsmall
    have hpad : List.replicate width '0' = List.replicate (width - 1) '0' ++ ['0'] := by
      rw [← List.replicate_succ', Nat.sub_add_cancel hwidth]
    rw [Nat.toDigits_of_lt_base hsmall, hzero, Nat.mod_eq_of_lt hsmall]
    simp [hpad, Nat.toDigits_of_lt_base]
  · rw [Nat.toDigits_of_base_le (by decide) (Nat.le_of_not_lt hsmall)]
    simp

theorem hex_four {n : ℕ} (h : n < 0x10000) :
    Text.hex 4 n = [Nat.digitChar (n / 4096), Nat.digitChar (n / 256 % 16),
      Nat.digitChar (n / 16 % 16), Nat.digitChar (n % 16)] := by
  have hlast : n / 16 / 16 / 16 < 16 := by omega
  have hone : Text.hex 1 (n / 16 / 16 / 16) = [Nat.digitChar (n / 16 / 16 / 16)] := by
    simp [Text.hex, Nat.toDigits_of_lt_base hlast]
  rw [hex_succ (by decide), hex_succ (by decide), hex_succ (by decide), hone]
  simp [Nat.div_div_eq_div_mul]

/-- Four digits are read as the number they were written for. -/
theorem exists_unit_of_hex {n : ℕ} (h : n < 0x10000) :
    ∃ a b c d, Text.hex 4 n = [a, b, c, d] ∧ unit? a b c d = some n := by
  refine ⟨_, _, _, _, hex_four h, ?_⟩
  simp only [unit?, hexValue?_digitChar _ (show n / 4096 < 16 by omega),
    hexValue?_digitChar _ (show n / 256 % 16 < 16 by omega),
    hexValue?_digitChar _ (show n / 16 % 16 < 16 by omega),
    hexValue?_digitChar _ (show n % 16 < 16 by omega)]
  change some _ = some n
  congr 1
  omega

variable {start : ℕ} {read more : List Char}

theorem readText_unit {a b c d : Char} {n : ℕ} (hunit : unit? a b c d = some n)
    (hhigh : isHighSurrogate n = false) (hmore : more ≠ []) :
    readText start read ('\\' :: 'u' :: a :: b :: c :: d :: more) =
      readText start (charOfUnit n :: read) more := by
  obtain ⟨next, rest, rfl⟩ := List.exists_cons_of_ne_nil hmore
  rw [readText.eq_def]
  split <;> grind

theorem readText_pair {a b c d a' b' c' d' : Char} {high low : ℕ}
    (hunit : unit? a b c d = some high) (hhigh : isHighSurrogate high = true)
    (hunit' : unit? a' b' c' d' = some low) (hlow : isLowSurrogate low = true)
    (hmore : more ≠ []) :
    readText start read ('\\' :: 'u' :: a :: b :: c :: d ::
        '\\' :: 'u' :: a' :: b' :: c' :: d' :: more) =
      readText start (charOfPair high low :: read) more := by
  obtain ⟨next, rest, rfl⟩ := List.exists_cons_of_ne_nil hmore
  rw [readText.eq_def]
  simp [hunit, hhigh, hunit', hlow]

theorem readText_short {c e : Char} (hescape : simpleEscape? c = some e) :
    readText start read ('\\' :: c :: more) = readText start (e :: read) more := by
  have hu : c ≠ 'u' := by
    rintro rfl
    cases hescape
  rw [readText.eq_def]
  split <;> grind

theorem readText_self {c : Char} (hquote : c ≠ '"') (hslash : c ≠ '\\')
    (hvisible : 0x20 ≤ c.toNat) :
    readText start read (c :: more) = readText start (c :: read) more := by
  rw [readText.eq_def]
  split <;> grind

/-- The numbers of characters are not surrogates. -/
theorem toNat_valid (c : Char) : c.toNat < 0xD800 ∨ (0xE000 ≤ c.toNat ∧ c.toNat < 0x110000) := by
  have hvalid : c.toNat.isValidChar := c.valid
  unfold Nat.isValidChar at hvalid
  omega

/-- A character with one unit is read from the escape of that unit. -/
theorem readText_unitEscape {c : Char} (hc : c.toNat < 0x10000) (hmore : more ≠ []) :
    readText start read ('\\' :: 'u' :: Text.hex 4 c.toNat ++ more) =
      readText start (c :: read) more := by
  obtain ⟨a, b, d, e, hhex, hunit⟩ := exists_unit_of_hex hc
  have hvalid := toNat_valid c
  have hhigh : isHighSurrogate c.toNat = false := by
    simp only [isHighSurrogate, Bool.and_eq_false_iff, decide_eq_false_iff_not]
    omega
  have hchar : charOfUnit c.toNat = c := by
    unfold charOfUnit
    rw [if_neg (by simp only [Bool.and_eq_true, decide_eq_true_eq]; omega), Char.ofNat_toNat]
  rw [hhex]
  exact (readText_unit hunit hhigh hmore).trans (by rw [hchar])

/-- A character with two units is read from the escapes of both. -/
theorem readText_pairEscape {c : Char} (hc : 0x10000 ≤ c.toNat) (hmore : more ≠ []) :
    readText start read ('\\' :: 'u' :: Text.hex 4 (0xD800 + (c.toNat - 0x10000) / 0x400)
        ++ '\\' :: 'u' :: Text.hex 4 (0xDC00 + (c.toNat - 0x10000) % 0x400) ++ more) =
      readText start (c :: read) more := by
  have hvalid := toNat_valid c
  have hhighRange : (c.toNat - 0x10000) / 0x400 < 0x400 := by omega
  have hlowRange : (c.toNat - 0x10000) % 0x400 < 0x400 := Nat.mod_lt _ (by decide)
  obtain ⟨a, b, d, e, hhex, hunit⟩ :=
    exists_unit_of_hex (n := 0xD800 + (c.toNat - 0x10000) / 0x400) (by omega)
  obtain ⟨a', b', d', e', hhex', hunit'⟩ :=
    exists_unit_of_hex (n := 0xDC00 + (c.toNat - 0x10000) % 0x400) (by omega)
  have hhigh : isHighSurrogate (0xD800 + (c.toNat - 0x10000) / 0x400) = true := by
    simp only [isHighSurrogate, Bool.and_eq_true, decide_eq_true_eq]
    omega
  have hlow : isLowSurrogate (0xDC00 + (c.toNat - 0x10000) % 0x400) = true := by
    simp only [isLowSurrogate, Bool.and_eq_true, decide_eq_true_eq]
    omega
  have hchar : charOfPair (0xD800 + (c.toNat - 0x10000) / 0x400)
      (0xDC00 + (c.toNat - 0x10000) % 0x400) = c := by
    have hsum : 0x10000 + (0xD800 + (c.toNat - 0x10000) / 0x400 - 0xD800) * 0x400
        + (0xDC00 + (c.toNat - 0x10000) % 0x400 - 0xDC00) = c.toNat := by omega
    rw [charOfPair, hsum, Char.ofNat_toNat]
  rw [hhex, hhex']
  exact (readText_pair hunit hhigh hunit' hlow hmore).trans (by rw [hchar])

/-- A written character is read as itself, before any text. -/
theorem readText_escapeChar (c : Char) (hmore : more ≠ []) :
    readText start read (escapeChar c ++ more) = readText start (c :: read) more := by
  unfold escapeChar
  split_ifs with hquote hslash hfeed hreturn htab hback hform hvisible
  · subst hquote
    exact readText_short rfl
  · subst hslash
    exact readText_short rfl
  · subst hfeed
    exact readText_short rfl
  · subst hreturn
    exact readText_short rfl
  · subst htab
    exact readText_short rfl
  · subst hback
    exact readText_short rfl
  · subst hform
    exact readText_short rfl
  · simp only [Bool.and_eq_true, decide_eq_true_eq] at hvisible
    exact readText_self hquote hslash hvisible.1
  · unfold unicodeEscape
    split_ifs with hunit
    · exact readText_unitEscape hunit hmore
    · exact readText_pairEscape (Nat.le_of_not_lt hunit) hmore

/-- A written text is read up to its closing quote. -/
theorem readText_escaped (cs rest : List Char) :
    readText start read (cs.flatMap escapeChar ++ '"' :: rest) =
      .ok (String.ofList (read.reverse ++ cs), rest) := by
  induction cs generalizing read with
  | nil =>
    rw [List.append_nil]
    rfl
  | cons c cs ih =>
    rw [List.flatMap_cons, List.append_assoc, readText_escapeChar c (by simp), ih]
    simp

end SqlBridge.Document
