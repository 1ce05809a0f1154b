import SqlBridge.Proofs.Document.Kept
import SqlBridge.Proofs.Document.Text

/-!
Written documents are printable ASCII: every other character is written by escapes, which consist of
letters and hexadecimal digits. Line feeds occur in the layout with an indent only, between the
items of containers.
-/

namespace SqlBridge.Document

/-- Lists of ASCII characters. -/
def IsAscii (cs : List Char) : Prop := ∀ c ∈ cs, c.toNat < 128

/-- Whether a character is a printable one of ASCII, including the blank. -/
def isPlain (c : Char) : Bool := 0x20 ≤ c.toNat && c.toNat < 0x7F

/-- The characters of a layout: the printable ones of ASCII, and line feeds if it has an indent. -/
def InLayout (indent : Option ℕ) (cs : List Char) : Prop :=
  ∀ c ∈ cs, isPlain c = true ∨ indent.isSome = true ∧ c = '\n'

namespace IsAscii

variable {cs ds : List Char}

theorem nil : IsAscii [] := by simp [IsAscii]

theorem cons {c : Char} (hc : c.toNat < 128) (h : IsAscii cs) : IsAscii (c :: cs) :=
  List.forall_mem_cons.mpr ⟨hc, h⟩

theorem append (h : IsAscii cs) (h' : IsAscii ds) : IsAscii (cs ++ ds) :=
  List.forall_mem_append.mpr ⟨h, h'⟩

end IsAscii

namespace InLayout

variable {indent : Option ℕ} {cs ds : List Char}

theorem nil : InLayout indent [] := by simp [InLayout]

theorem cons {c : Char} (hc : isPlain c = true) (h : InLayout indent cs) :
    InLayout indent (c :: cs) :=
  List.forall_mem_cons.mpr ⟨.inl hc, h⟩

theorem append (h : InLayout indent cs) (h' : InLayout indent ds) : InLayout indent (cs ++ ds) :=
  List.forall_mem_append.mpr ⟨h, h'⟩

theorem of_all {cs : List Char} (h : cs.all isPlain = true) : InLayout indent cs := fun c hc =>
  .inl (List.all_eq_true.mp h c hc)

theorem isAscii (h : InLayout indent cs) : IsAscii cs := by
  intro c hc
  rcases h c hc with hplain | ⟨-, rfl⟩
  · simp only [isPlain, Bool.and_eq_true, decide_eq_true_eq] at hplain
    omega
  · decide

/-- Without an indent all characters are printable. -/
theorem isPlain_of_none (h : InLayout none cs) : ∀ c ∈ cs, isPlain c = true := fun c hc =>
  (h c hc).resolve_right (by simp)

theorem hex {n : ℕ} (h : n < 0x10000) : InLayout indent (Text.hex 4 n) := by
  have hdigit : ∀ d < 16, isPlain (Nat.digitChar d) = true := by decide
  rw [hex_four h]
  exact cons (hdigit _ (by omega)) (cons (hdigit _ (by omega)) (cons (hdigit _ (by omega))
    (cons (hdigit _ (by omega)) nil)))

theorem unicodeEscape (c : Char) : InLayout indent (Document.unicodeEscape c.toNat) := by
  have hvalid := toNat_valid c
  unfold Document.unicodeEscape
  split_ifs with hunit
  · exact cons (by decide) (cons (by decide) (hex hunit))
  · exact append (cons (by decide) (cons (by decide) (hex (by omega))))
      (cons (by decide) (cons (by decide) (hex (by omega))))

theorem escapeChar (c : Char) : InLayout indent (Document.escapeChar c) := by
  unfold Document.escapeChar
  split_ifs with hquote hslash hfeed hreturn htab hback hform hvisible
  -- The short escapes are two characters each.
  iterate 7 exact cons (by decide) (cons (by decide) nil)
  · exact cons hvisible nil
  · exact unicodeEscape c

theorem writeText (s : String) : InLayout indent (Document.writeText s) := by
  unfold Document.writeText
  refine append (cons (by decide) ?_) (cons (by decide) nil)
  intro d hd
  obtain ⟨c, -, hc⟩ := List.mem_flatMap.mp hd
  exact escapeChar c d hc

theorem lineBreak (indent : Option ℕ) (depth : ℕ) :
    InLayout indent (Document.lineBreak indent depth) := by
  cases indent with
  | none => exact nil
  | some width =>
    intro c hc
    rcases List.mem_cons.mp hc with rfl | hblank
    · exact .inr ⟨rfl, rfl⟩
    · obtain ⟨-, rfl⟩ := List.mem_replicate.mp hblank
      exact .inl rfl

theorem separator (indent : Option ℕ) (depth : ℕ) :
    InLayout indent (Document.separator indent depth) := by
  cases indent with
  | none => exact cons (by decide) (cons (by decide) nil)
  | some width => exact cons (by decide) (lineBreak (some width) depth)

theorem intText (n : Int) : InLayout indent (Decimal.intText n).toList := by
  have hdigits : InLayout indent (Nat.toDigits 10 n.natAbs) := by
    intro c hc
    have hdigit := isAsciiDigit_of_mem_toDigits c hc
    simp only [Text.isAsciiDigit, Bool.and_eq_true, decide_eq_true_eq] at hdigit
    have hfirst : 48 ≤ c.toNat := hdigit.1
    have hlast : c.toNat ≤ 57 := hdigit.2
    left
    simp only [isPlain, Bool.and_eq_true, decide_eq_true_eq]
    omega
  rw [toList_intText]
  split
  · exact cons (by decide) hdigits
  · exact hdigits

theorem writeItems {items : List Value}
    (h : ∀ v ∈ items, ∀ depth, InLayout indent (write indent depth v)) (depth : ℕ) :
    InLayout indent (Document.writeItems indent depth items) := by
  induction items with
  | nil => exact nil
  | cons v rest ih =>
    have hrest := ih fun w hw => h w (List.mem_cons_of_mem v hw)
    exact append (append (separator indent depth) (h v List.mem_cons_self depth)) hrest

theorem writeFields {fields : List (String × Value)}
    (h : ∀ field ∈ fields, ∀ depth, InLayout indent (write indent depth field.2)) (depth : ℕ) :
    InLayout indent (Document.writeFields indent depth fields) := by
  induction fields with
  | nil => exact nil
  | cons field rest ih =>
    have hrest := ih fun other hother => h other (List.mem_cons_of_mem field hother)
    have hname : InLayout indent (Document.separator indent depth ++ Document.writeText field.1) :=
      append (separator indent depth) (writeText field.1)
    exact append (append (append hname (cons (by decide) (cons (by decide) nil)))
      (h field List.mem_cons_self depth)) hrest

theorem list {v : Value} {items : List Value}
    (h : ∀ w ∈ v :: items, ∀ depth, InLayout indent (write indent depth w)) (depth : ℕ) :
    InLayout indent (write indent depth (.list (v :: items))) := by
  have hfirst : InLayout indent ('[' :: Document.lineBreak indent (depth + 1) ++
      write indent (depth + 1) v) :=
    append (cons (by decide) (lineBreak indent _)) (h v List.mem_cons_self _)
  have hrest := writeItems (fun w hw => h w (List.mem_cons_of_mem v hw)) (depth + 1)
  exact append (append (append hfirst hrest) (lineBreak indent depth)) (cons (by decide) nil)

theorem object {field : String × Value} {fields : List (String × Value)}
    (h : ∀ other ∈ field :: fields, ∀ depth, InLayout indent (write indent depth other.2))
    (depth : ℕ) : InLayout indent (write indent depth (.object (field :: fields))) := by
  have hname : InLayout indent ('\x7b' :: Document.lineBreak indent (depth + 1) ++
      Document.writeText field.1 ++ [':', ' ']) :=
    append (append (cons (by decide) (lineBreak indent _)) (writeText field.1))
      (cons (by decide) (cons (by decide) nil))
  have hfirst := append hname (h field List.mem_cons_self (depth + 1))
  have hrest := writeFields (fun other hother => h other (List.mem_cons_of_mem field hother))
    (depth + 1)
  exact append (append (append hfirst hrest) (lineBreak indent depth)) (cons (by decide) nil)

variable {limit : Option ℕ}

/-- The text of a value consists of characters of its layout. -/
theorem write (indent : Option ℕ) (v : Value) (hv : keepsWithin limit v = true) (depth : ℕ) :
    InLayout indent (Document.write indent depth v) := by
  induction v using Value.induction generalizing depth with
  | scalar v hscalar =>
    cases v with
    | null => exact of_all rfl
    | bool b => cases b <;> exact of_all rfl
    | double x => cases hv
    | int n => exact intText n
    | text s => exact writeText s
    | list items => cases hscalar
    | object fields => cases hscalar
  | list items ih =>
    have hkeeps := keepsItemsWithin_iff.mp hv
    cases items with
    | nil => exact of_all rfl
    | cons v items => exact list (fun w hw depth => ih w hw (hkeeps w hw) depth) depth
  | object fields ih =>
    obtain ⟨-, hkeeps⟩ := keepsWithin_object_iff.mp hv
    cases fields with
    | nil => exact of_all rfl
    | cons field fields =>
      exact object (fun other hother depth => ih other hother (hkeeps other hother) depth) depth

end InLayout

end SqlBridge.Document
