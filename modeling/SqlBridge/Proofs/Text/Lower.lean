import SqlBridge.Text.Lower

/-!
Lower case in ASCII. A text of characters whose lower-case form is that of ASCII is mapped character
by character, in any context.
-/

namespace SqlBridge.Text

/-- A property of the 128 characters of ASCII, decided for each of them. -/
theorem forall_ascii {p : Char → Prop} (h : ∀ n : Fin 128, p (Char.ofNat n)) {c : Char}
    (hc : c.toNat < 128) : p c := by
  have hp := h ⟨c.toNat, hc⟩
  rwa [Char.ofNat_toNat] at hp

theorem toNat_of_isAlphanum {c : Char} (h : c.isAlphanum = true) :
    (48 ≤ c.toNat ∧ c.toNat ≤ 57) ∨ (65 ≤ c.toNat ∧ c.toNat ≤ 90) ∨
      (97 ≤ c.toNat ∧ c.toNat ≤ 122) := by
  have halphanum : c.isAlphanum = ((decide (c.val ≥ 65 ∧ c.val ≤ 90) ||
      decide (c.val ≥ 97) && decide (c.val ≤ 122)) ||
        decide (c.val ≥ 48) && decide (c.val ≤ 57)) := rfl
  simp only [halphanum, Bool.or_eq_true, decide_eq_true_eq, Bool.and_eq_true] at h
  rcases h with (⟨hlow, hhigh⟩ | ⟨hlow, hhigh⟩) | ⟨hlow, hhigh⟩
  · exact Or.inr (Or.inl ⟨hlow, hhigh⟩)
  · exact Or.inr (Or.inr ⟨hlow, hhigh⟩)
  · exact Or.inl ⟨hlow, hhigh⟩

theorem lowerFrom_eq_map (before : List Char) {cs : List Char}
    (h : ∀ c ∈ cs, lowerOne c = [c.toLower] ∧ c.toNat ≠ 0x3A3) :
    lowerFrom before cs = cs.map Char.toLower := by
  induction cs generalizing before with
  | nil => rfl
  | cons c rest ih =>
    obtain ⟨hlower, hsigma⟩ := h c List.mem_cons_self
    have hrest := ih (c :: before) fun d hd => h d (List.mem_cons_of_mem c hd)
    simp [lowerFrom, hsigma, hlower, hrest]

theorem lowerFrom_of_ascii (before : List Char) {cs : List Char} (h : ∀ c ∈ cs, c.toNat < 0x80) :
    lowerFrom before cs = cs.map Char.toLower := by
  refine lowerFrom_eq_map before fun c hc => ?_
  have hascii := h c hc
  exact ⟨if_pos hascii, by omega⟩

end SqlBridge.Text
