import SqlBridge.Document.Limit
import SqlBridge.Document.Writer
import SqlBridge.Proofs.Document.Number

/-!
The values preserved by documents, and the beginning and end of their texts. Blanks occur between
the items of a container in the layout with an indent, and are skipped by the reader; no text of a
value begins with one.
-/

namespace SqlBridge

/-- Induction over values, from the scalars up. -/
theorem Value.induction {P : Value → Prop} (scalar : ∀ v, v.isContainer = false → P v)
    (list : ∀ items, (∀ v ∈ items, P v) → P (.list items))
    (object : ∀ fields, (∀ field ∈ fields, P field.2) → P (.object fields)) (v : Value) : P v := by
  match v with
  | .null => exact scalar _ rfl
  | .bool b => exact scalar _ rfl
  | .int n => exact scalar _ rfl
  | .double x => exact scalar _ rfl
  | .text s => exact scalar _ rfl
  | .list items => exact list items fun w hw => Value.induction scalar list object w
  | .object fields =>
    exact object fields fun field hfield => Value.induction scalar list object field.2
termination_by v
decreasing_by
  · have hsize := List.sizeOf_lt_of_mem hw
    simp only [Value.list.sizeOf_spec]
    omega
  · have hsize := List.sizeOf_lt_of_mem hfield
    have hpair : sizeOf field = 1 + sizeOf field.1 + sizeOf field.2 := rfl
    simp only [Value.object.sizeOf_spec]
    omega

namespace Document

mutual

/-- Whether a document preserves a value: it holds no doubles, no whole number has too many digits,
and no object has a name twice. -/
def keeps : Value → Bool
  | .double _ => false
  | .int n => decide ((Nat.toDigits 10 n.natAbs).length ≤ maxDigits)
  | .list items => keepsItems items
  | .object fields => decide (fields.map (·.1)).Nodup && keepsFields fields
  | _ => true

def keepsItems : List Value → Bool
  | [] => true
  | v :: rest => keeps v && keepsItems rest

def keepsFields : List (String × Value) → Bool
  | [] => true
  | (_, v) :: rest => keeps v && keepsFields rest

end

mutual

/-- Whether a reader with a digit limit reads a value back unchanged. -/
def keepsWithin (limit : Option ℕ) : Value → Bool
  | .double _ => false
  | .int n => fitsLimit limit n
  | .list items => keepsItemsWithin limit items
  | .object fields => decide (fields.map (·.1)).Nodup && keepsFieldsWithin limit fields
  | _ => true

def keepsItemsWithin (limit : Option ℕ) : List Value → Bool
  | [] => true
  | v :: rest => keepsWithin limit v && keepsItemsWithin limit rest

def keepsFieldsWithin (limit : Option ℕ) : List (String × Value) → Bool
  | [] => true
  | (_, v) :: rest => keepsWithin limit v && keepsFieldsWithin limit rest

end

variable {limit : Option ℕ}

theorem keepsItemsWithin_iff {items : List Value} :
    keepsItemsWithin limit items = true ↔ ∀ v ∈ items, keepsWithin limit v = true := by
  induction items with
  | nil => simp [keepsItemsWithin]
  | cons v rest ih => simp [keepsItemsWithin, ih]

theorem keepsFieldsWithin_iff {fields : List (String × Value)} :
    keepsFieldsWithin limit fields = true ↔
      ∀ field ∈ fields, keepsWithin limit field.2 = true := by
  induction fields with
  | nil => simp [keepsFieldsWithin]
  | cons field rest ih => simp [keepsFieldsWithin, ih]

theorem keepsWithin_object_iff {fields : Fields Value} :
    keepsWithin limit (.object fields) = true ↔
      (fields.map (·.1)).Nodup ∧ ∀ field ∈ fields, keepsWithin limit field.2 = true := by
  rw [keepsWithin, Bool.and_eq_true, decide_eq_true_eq, keepsFieldsWithin_iff]

mutual

/-- The values preserved by documents are those read back under the digit limit. -/
theorem keepsWithin_maxDigits : ∀ v, keepsWithin (some maxDigits) v = keeps v
  | .null | .bool _ | .int _ | .double _ | .text _ => rfl
  | .list items => keepsItemsWithin_maxDigits items
  | .object fields => by rw [keepsWithin, keeps, keepsFieldsWithin_maxDigits fields]

theorem keepsItemsWithin_maxDigits :
    ∀ items, keepsItemsWithin (some maxDigits) items = keepsItems items
  | [] => rfl
  | v :: rest => by
    rw [keepsItemsWithin, keepsItems, keepsWithin_maxDigits v, keepsItemsWithin_maxDigits rest]

theorem keepsFieldsWithin_maxDigits :
    ∀ fields, keepsFieldsWithin (some maxDigits) fields = keepsFields fields
  | [] => rfl
  | (_, v) :: rest => by
    rw [keepsFieldsWithin, keepsFields, keepsWithin_maxDigits v, keepsFieldsWithin_maxDigits rest]

end

section Fault

variable {strict : Bool} {fault : WriteFault}

theorem itemsFault?_eq_none_iff {items : List Value} :
    itemsFault? strict items = none ↔ ∀ v ∈ items, writeFault? strict v = none := by
  induction items with
  | nil => simp [itemsFault?]
  | cons v rest ih => simp [itemsFault?, ih]

theorem fieldsFault?_eq_none_iff {fields : List (String × Value)} :
    fieldsFault? strict fields = none ↔ ∀ field ∈ fields, writeFault? strict field.2 = none := by
  induction fields with
  | nil => simp [fieldsFault?]
  | cons field rest ih => simp [fieldsFault?, ih]

theorem exists_of_itemsFault? {items : List Value} (h : itemsFault? strict items = some fault) :
    ∃ v ∈ items, writeFault? strict v = some fault := by
  induction items with
  | nil => cases h
  | cons v rest ih =>
    rcases Option.or_eq_some_iff.mp h with hfirst | ⟨-, hrest⟩
    · exact ⟨v, List.mem_cons_self, hfirst⟩
    · obtain ⟨w, hw, hfault⟩ := ih hrest
      exact ⟨w, List.mem_cons_of_mem v hw, hfault⟩

theorem exists_of_fieldsFault? {fields : List (String × Value)}
    (h : fieldsFault? strict fields = some fault) :
    ∃ field ∈ fields, writeFault? strict field.2 = some fault := by
  induction fields with
  | nil => cases h
  | cons field rest ih =>
    rcases Option.or_eq_some_iff.mp h with hfirst | ⟨-, hrest⟩
    · exact ⟨field, List.mem_cons_self, hfirst⟩
    · obtain ⟨other, hother, hfault⟩ := ih hrest
      exact ⟨other, List.mem_cons_of_mem field hother, hfault⟩

/-- Only a whole number beyond the digit limit has no text that is not strict. -/
theorem eq_tooManyDigits_of_writeFault? {v : Value} (h : writeFault? false v = some fault) :
    fault = .tooManyDigits := by
  induction v using Value.induction with
  | scalar v hv =>
    cases v with
    | int n =>
      simp only [writeFault?] at h
      split at h <;> cases h
      rfl
    | list items => cases hv
    | object fields => cases hv
    | _ => cases h
  | list items ih =>
    obtain ⟨v, hv, hfault⟩ := exists_of_itemsFault? h
    exact ih v hv hfault
  | object fields ih =>
    obtain ⟨field, hfield, hfault⟩ := exists_of_fieldsFault? h
    exact ih field hfield hfault

/-- The limit of documents refuses exactly the values without text. -/
theorem keepsWithin_some_iff {v : Value} :
    keepsWithin (some maxDigits) v = true ↔
      keepsWithin none v = true ∧ writeFault? false v = none := by
  induction v using Value.induction with
  | scalar v hv =>
    cases v with
    | int n => simp [keepsWithin, fitsLimit, writeFault?, isConvertible]
    | list items => cases hv
    | object fields => cases hv
    | _ => simp [keepsWithin, writeFault?]
  | list items ih =>
    simp only [keepsWithin, writeFault?, keepsItemsWithin_iff, itemsFault?_eq_none_iff,
      ← forall₂_and]
    exact forall₂_congr ih
  | object fields ih =>
    simp only [keepsWithin_object_iff, writeFault?, fieldsFault?_eq_none_iff, and_assoc,
      ← forall₂_and]
    exact and_congr_right fun _ => forall₂_congr ih

end Fault

theorem isSeparator_of_mem_lineBreak {indent : Option ℕ} {depth : ℕ} :
    ∀ c ∈ lineBreak indent depth, isSeparator c = true := by
  intro c hc
  cases indent with
  | none => simp [lineBreak] at hc
  | some width =>
    rcases List.mem_cons.mp hc with rfl | hblank
    · rfl
    · obtain ⟨-, rfl⟩ := List.mem_replicate.mp hblank
      rfl

theorem skip_blanks {blanks : List Char} (h : ∀ c ∈ blanks, isSeparator c = true)
    (cs : List Char) : skip (blanks ++ cs) = skip cs := List.dropWhile_append_of_pos h

theorem skip_lineBreak (indent : Option ℕ) (depth : ℕ) (cs : List Char) :
    skip (lineBreak indent depth ++ cs) = skip cs := skip_blanks isSeparator_of_mem_lineBreak cs

theorem skip_of_not_separator {c : Char} (h : isSeparator c = false) (cs : List Char) :
    skip (c :: cs) = c :: cs :=
  List.dropWhile_cons_of_neg (by simp [h])

theorem endsNumber_lineBreak {cs : List Char} (h : endsNumber cs = true) (indent : Option ℕ)
    (depth : ℕ) : endsNumber (lineBreak indent depth ++ cs) = true := by
  cases indent with
  | none => exact h
  | some width => rfl

/-- After a comma the next item follows after blanks. -/
theorem exists_separator_eq (indent : Option ℕ) (depth : ℕ) :
    ∃ blanks, separator indent depth = ',' :: blanks ∧ ∀ c ∈ blanks, isSeparator c = true := by
  cases indent with
  | none => exact ⟨[' '], rfl, List.forall_mem_singleton.mpr rfl⟩
  | some width => exact ⟨_, rfl, isSeparator_of_mem_lineBreak⟩

theorem not_isSeparator_of_isAsciiDigit {c : Char} (h : Text.isAsciiDigit c = true) :
    isSeparator c = false := by
  cases hc : isSeparator c with
  | false => rfl
  | true =>
    simp only [isSeparator, Bool.or_eq_true, decide_eq_true_eq] at hc
    rcases hc with ((rfl | rfl) | rfl) | rfl <;> cases h

/-- A written value begins with a character other than blanks and closing brackets. -/
theorem exists_write_eq (indent : Option ℕ) (depth : ℕ) {v : Value}
    (hv : keepsWithin limit v = true) :
    ∃ c cs, write indent depth v = c :: cs ∧ isSeparator c = false ∧ c ≠ ']' := by
  cases v with
  | null => exact ⟨_, _, rfl, rfl, by decide⟩
  | bool b => cases b <;> exact ⟨_, _, rfl, rfl, by decide⟩
  | double x => cases hv
  | text s => exact ⟨_, _, rfl, rfl, by decide⟩
  | list items => cases items <;> exact ⟨_, _, rfl, rfl, by decide⟩
  | object fields => rcases fields with _ | ⟨⟨name, v⟩, rest⟩ <;> exact ⟨_, _, rfl, rfl, by decide⟩
  | int n =>
    rcases beginsNumber_intText n [] with ⟨c, rest, heq, hc⟩ | ⟨c, rest, heq, -⟩
    · rw [List.append_nil] at heq
      exact ⟨c, rest, heq, not_isSeparator_of_isAsciiDigit hc, by rintro rfl; cases hc⟩
    · rw [List.append_nil] at heq
      exact ⟨'-', c :: rest, heq, rfl, by decide⟩

theorem skip_write (indent : Option ℕ) (depth : ℕ) {v : Value}
    (hv : keepsWithin limit v = true) (cs : List Char) :
    skip (write indent depth v ++ cs) = write indent depth v ++ cs := by
  obtain ⟨c, more, heq, hc, -⟩ := exists_write_eq indent depth hv
  rw [heq]
  exact skip_of_not_separator hc _

end Document

end SqlBridge
