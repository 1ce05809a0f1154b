import SqlBridge.Proofs.Document.Ascii
import SqlBridge.Proofs.Fields

/-!
Reading after writing. The text of a value is read as that value, in either layout and before any
text that does not continue it. Objects keep the order of their names. The fuel suffices, because
every level of nesting takes a character.
-/

namespace SqlBridge.Document

/-- A value is read from its text, before any text that does not continue a number. -/
def ReadsBack (limit indent : Option ℕ) (v : Value) : Prop :=
  ∀ (depth fuel : ℕ) (rest : List Char), (write indent depth v).length ≤ fuel →
    endsNumber rest = true →
      readValue limit fuel (write indent depth v ++ rest) = .ok (v, rest)

variable {limit indent : Option ℕ}

/-- The items of a list are read up to its closing bracket. -/
theorem readItems_write {v : Value} {items : List Value}
    (hkeeps : ∀ w ∈ v :: items, keepsWithin limit w = true)
    (hreads : ∀ w ∈ v :: items, ReadsBack limit indent w) (depth outer fuel : ℕ) (rest : List Char)
    (hfuel : (write indent depth v).length + (writeItems indent depth items).length < fuel) :
    readItems limit fuel (write indent depth v ++
        (writeItems indent depth items ++ (lineBreak indent outer ++ ']' :: rest))) =
      .ok (v :: items, rest) := by
  induction items generalizing v fuel with
  | nil =>
    obtain ⟨fuel, rfl⟩ : ∃ k, fuel = k + 1 := ⟨fuel - 1, by omega⟩
    have hvalue := hreads v List.mem_cons_self depth fuel (lineBreak indent outer ++ ']' :: rest)
      (by omega) (endsNumber_lineBreak rfl indent outer)
    have hclose : skip (lineBreak indent outer ++ ']' :: rest) = ']' :: rest := by
      rw [skip_lineBreak, skip_of_not_separator rfl]
    rw [writeItems, List.nil_append, readItems, hvalue]
    simp only [hclose]
  | cons w items ih =>
    obtain ⟨fuel, rfl⟩ : ∃ k, fuel = k + 1 := ⟨fuel - 1, by omega⟩
    obtain ⟨blanks, hseparator, hblanks⟩ := exists_separator_eq indent depth
    have hlater := ih (v := w) (fun u hu => hkeeps u (List.mem_cons_of_mem v hu))
      (fun u hu => hreads u (List.mem_cons_of_mem v hu)) fuel (by
        simp only [writeItems, hseparator, List.length_append, List.length_cons] at hfuel
        omega)
    have hw : keepsWithin limit w = true := hkeeps w (List.mem_cons_of_mem v List.mem_cons_self)
    have hvalue := hreads v List.mem_cons_self depth fuel
      (writeItems indent depth (w :: items) ++ (lineBreak indent outer ++ ']' :: rest))
      (by omega) (by rw [writeItems, hseparator]; rfl)
    rw [readItems, hvalue]
    simp only [writeItems, hseparator, List.cons_append, List.append_assoc,
      skip_of_not_separator (c := ',') rfl]
    rw [skip_blanks hblanks, skip_write indent depth hw, hlater]
    rfl

theorem writeText_append (s : String) (cs : List Char) :
    writeText s ++ cs = '"' :: (s.toList.flatMap escapeChar ++ '"' :: cs) := by
  simp [writeText]

theorem skip_writeText (s : String) (cs : List Char) :
    skip (writeText s ++ cs) = writeText s ++ cs := by
  rw [writeText_append, skip_of_not_separator rfl]

/-- A text is read up to its closing quote. -/
theorem readText_writeText (start : ℕ) (s : String) (cs : List Char) :
    readText start [] (s.toList.flatMap escapeChar ++ '"' :: cs) = .ok (s, cs) := by
  rw [readText_escaped, List.reverse_nil, List.nil_append, String.ofList_toList]

section

variable {name : String} {v : Value} {depth fuel : ℕ} {tail after : List Char}

/-- A field before the closing brace of its object is the last one. -/
theorem readFields_last (hv : keepsWithin limit v = true)
    (hvalue : readValue limit fuel (write indent depth v ++ tail) = .ok (v, tail))
    (hend : skip tail = '\x7d' :: after) (read : Fields Value) :
    readFields limit (fuel + 1) read
        (writeText name ++ ':' :: ' ' :: (write indent depth v ++ tail)) =
      .ok (read.insert name v, after) := by
  have hblank : skip (' ' :: (write indent depth v ++ tail)) = write indent depth v ++ tail :=
    skip_write indent depth hv tail
  rw [writeText_append, readFields]
  simp only [readText_writeText, skip_of_not_separator (c := ':') rfl, hblank, hvalue, hend]

/-- After a field with a comma the next field is read. -/
theorem readFields_more (hv : keepsWithin limit v = true)
    (hvalue : readValue limit fuel (write indent depth v ++ tail) = .ok (v, tail))
    (hend : skip tail = ',' :: after) (read : Fields Value) :
    readFields limit (fuel + 1) read
        (writeText name ++ ':' :: ' ' :: (write indent depth v ++ tail)) =
      readFields limit fuel (read.insert name v) (skip after) := by
  have hblank : skip (' ' :: (write indent depth v ++ tail)) = write indent depth v ++ tail :=
    skip_write indent depth hv tail
  rw [writeText_append, readFields]
  simp only [readText_writeText, skip_of_not_separator (c := ':') rfl, hblank, hvalue, hend]

end

/-- The fields of an object are read up to its closing brace, and appended to those read before. -/
theorem readFields_write {name : String} {v : Value} {fields : List (String × Value)}
    (hkeeps : ∀ field ∈ (name, v) :: fields, keepsWithin limit field.2 = true)
    (hreads : ∀ field ∈ (name, v) :: fields, ReadsBack limit indent field.2) (read : Fields Value)
    (hnames : ((read ++ (name, v) :: fields).map (·.1)).Nodup) (depth outer fuel : ℕ)
    (rest : List Char)
    (hfuel : (write indent depth v).length + (writeFields indent depth fields).length < fuel) :
    readFields limit fuel read (writeText name ++ ':' :: ' ' :: (write indent depth v ++
        (writeFields indent depth fields ++ (lineBreak indent outer ++ '\x7d' :: rest)))) =
      .ok (read ++ (name, v) :: fields, rest) := by
  induction fields generalizing name v read fuel with
  | nil =>
    obtain ⟨fuel, rfl⟩ : ∃ k, fuel = k + 1 := ⟨fuel - 1, by omega⟩
    have hvalue := hreads (name, v) List.mem_cons_self depth fuel
      (lineBreak indent outer ++ '\x7d' :: rest) (by dsimp only; omega)
      (endsNumber_lineBreak rfl indent outer)
    have hclose : skip (lineBreak indent outer ++ '\x7d' :: rest) = '\x7d' :: rest := by
      rw [skip_lineBreak, skip_of_not_separator rfl]
    have hnew := Fields.not_mem_keys_of_nodup hnames
    rw [writeFields, List.nil_append, readFields_last (hkeeps _ List.mem_cons_self) hvalue hclose,
      Fields.insert_of_not_mem hnew]
  | cons field fields ih =>
    obtain ⟨fuel, rfl⟩ : ∃ k, fuel = k + 1 := ⟨fuel - 1, by omega⟩
    obtain ⟨next, w⟩ := field
    obtain ⟨blanks, hseparator, hblanks⟩ := exists_separator_eq indent depth
    have hnew := Fields.not_mem_keys_of_nodup hnames
    have hlater := @ih next w
      (fun field hfield => hkeeps field (List.mem_cons_of_mem _ hfield))
      (fun field hfield => hreads field (List.mem_cons_of_mem _ hfield)) (read ++ [(name, v)])
      (by rwa [List.append_assoc]) fuel (by
        simp only [writeFields, hseparator, List.length_append, List.length_cons] at hfuel
        omega)
    have hvalue := hreads (name, v) List.mem_cons_self depth fuel
      (writeFields indent depth ((next, w) :: fields) ++ (lineBreak indent outer ++ '\x7d' :: rest))
      (by dsimp only; omega) (by rw [writeFields, hseparator]; rfl)
    have hcomma : skip (writeFields indent depth ((next, w) :: fields) ++
        (lineBreak indent outer ++ '\x7d' :: rest)) =
          ',' :: (blanks ++ (writeText next ++ ':' :: ' ' :: (write indent depth w ++
            (writeFields indent depth fields ++ (lineBreak indent outer ++ '\x7d' :: rest))))) := by
      simp only [writeFields, hseparator, List.cons_append, List.append_assoc, List.nil_append,
        skip_of_not_separator (c := ',') rfl]
    rw [readFields_more (hkeeps _ List.mem_cons_self) hvalue hcomma, Fields.insert_of_not_mem hnew,
      skip_blanks hblanks, skip_writeText]
    exact hlater.trans (by simp)

/-- An opening bracket without a closing one after it begins the items of a list. -/
theorem readValue_list {c : Char} {cs rest : List Char} (hskip : skip rest = c :: cs)
    (hc : c ≠ ']') (limit : Option ℕ) (fuel : ℕ) :
    readValue limit (fuel + 1) ('[' :: rest) =
      (readItems limit fuel (c :: cs)).map fun (vs, after) => (.list vs, after) := by
  rw [readValue]
  simp only [hskip]
  split
  · next heq => exact absurd (List.cons_eq_cons.mp heq).1 hc
  · rfl

/-- A text after a brace begins the fields of an object. -/
theorem readValue_object {cs rest : List Char} (hskip : skip rest = '"' :: cs) (limit : Option ℕ)
    (fuel : ℕ) :
    readValue limit (fuel + 1) ('\x7b' :: rest) =
      (readFields limit fuel [] ('"' :: cs)).map fun (fs, after) => (.object fs, after) := by
  rw [readValue]
  simp only [hskip]
  rfl

/-- A scalar is read back if its beginning is recognised. -/
theorem readsBack_scalar {v : Value} (hscalar : v.isContainer = false)
    (hv : keepsWithin limit v = true) : ReadsBack limit indent v := by
  intro depth fuel rest hfuel hrest
  obtain ⟨c, cs, hwrite, -, -⟩ := exists_write_eq indent depth hv
  obtain ⟨fuel, rfl⟩ : ∃ k, fuel = k + 1 := by
    rw [hwrite, List.length_cons] at hfuel
    exact ⟨fuel - 1, by omega⟩
  cases v with
  | null => rfl
  | bool b => cases b <;> rfl
  | double x => cases hv
  | int n =>
    rw [write, readValue_of_beginsNumber (beginsNumber_intText n rest)]
    exact readNumber_intText hrest hv
  | text s =>
    rw [write, writeText_append, readValue, readText_writeText]
    rfl
  | list items => cases hscalar
  | object fields => cases hscalar

theorem readsBack_list {items : List Value} (hkeeps : ∀ v ∈ items, keepsWithin limit v = true)
    (hreads : ∀ v ∈ items, ReadsBack limit indent v) : ReadsBack limit indent (.list items) := by
  intro depth fuel rest hfuel _
  cases items with
  | nil =>
    obtain ⟨fuel, rfl⟩ : ∃ k, fuel = k + 1 := ⟨fuel - 1, by simp [write] at hfuel; omega⟩
    rfl
  | cons v items =>
    simp only [write, List.cons_append, List.append_assoc, List.length_cons, List.length_append,
      List.nil_append] at hfuel ⊢
    obtain ⟨fuel, rfl⟩ : ∃ k, fuel = k + 1 := ⟨fuel - 1, by omega⟩
    obtain ⟨c, cs, hwrite, hc, hclose⟩ :=
      exists_write_eq indent (depth + 1) (hkeeps v List.mem_cons_self)
    have hitems := readItems_write hkeeps hreads (depth + 1) depth fuel rest (by omega)
    rw [hwrite, List.cons_append] at hitems ⊢
    rw [readValue_list (by rw [skip_lineBreak, skip_of_not_separator hc]) hclose, hitems]
    rfl

theorem readsBack_object {fields : List (String × Value)} (hnames : (fields.map (·.1)).Nodup)
    (hkeeps : ∀ field ∈ fields, keepsWithin limit field.2 = true)
    (hreads : ∀ field ∈ fields, ReadsBack limit indent field.2) :
    ReadsBack limit indent (.object fields) := by
  intro depth fuel rest hfuel _
  cases fields with
  | nil =>
    obtain ⟨fuel, rfl⟩ : ∃ k, fuel = k + 1 := ⟨fuel - 1, by simp [write] at hfuel; omega⟩
    rfl
  | cons field fields =>
    obtain ⟨name, v⟩ := field
    simp only [write, List.cons_append, List.append_assoc, List.length_cons, List.length_append,
      List.nil_append] at hfuel ⊢
    obtain ⟨fuel, rfl⟩ : ∃ k, fuel = k + 1 := ⟨fuel - 1, by omega⟩
    have hfields := readFields_write hkeeps hreads [] hnames (depth + 1) depth fuel rest (by omega)
    rw [writeText_append] at hfields ⊢
    rw [readValue_object (by rw [skip_lineBreak, skip_of_not_separator rfl]), hfields]
    rfl

/-- Every value within the limits of the reader is read back from its text. -/
theorem readsBack_of_keepsWithin (indent : Option ℕ) (v : Value) (hv : keepsWithin limit v = true) :
    ReadsBack limit indent v := by
  induction v using Value.induction with
  | scalar v hscalar => exact readsBack_scalar hscalar hv
  | list items ih =>
    have hkeeps := keepsItemsWithin_iff.mp hv
    exact readsBack_list hkeeps fun v hmem => ih v hmem (hkeeps v hmem)
  | object fields ih =>
    obtain ⟨hnames, hkeeps⟩ := keepsWithin_object_iff.mp hv
    exact readsBack_object hnames hkeeps fun field hmem => ih field hmem (hkeeps field hmem)

/-- A whole text is read as its value, with blanks after it. -/
theorem readWith_write (indent : Option ℕ) {v : Value} (hv : keepsWithin limit v = true)
    {tail : List Char} (hnumber : endsNumber tail = true) (hblank : skip tail = []) :
    readWith limit (write indent 0 v ++ tail) = .ok v := by
  have hvalue := readsBack_of_keepsWithin indent v hv 0
    (2 * (write indent 0 v ++ tail).length + 2) tail (by rw [List.length_append]; omega) hnumber
  simp only [readWith, skip_write indent 0 hv, hvalue, bind, Except.bind, hblank]

/-- A written value does not begin with a byte order mark. -/
theorem head?_write_ne_mark (indent : Option ℕ) {v : Value} (hv : keepsWithin limit v = true)
    (tail : List Char) : (write indent 0 v ++ tail).head? ≠ some '\uFEFF' := by
  obtain ⟨c, cs, hwrite, -, -⟩ := exists_write_eq indent 0 hv
  have hascii := (InLayout.write indent v hv 0).isAscii c (hwrite ▸ List.mem_cons_self)
  rw [hwrite, List.cons_append, List.head?_cons, Ne, Option.some.injEq]
  rintro rfl
  exact absurd hascii (by decide)

theorem read_write (indent : Option ℕ) {v : Value} (hv : keeps v = true) {tail : List Char}
    (hnumber : endsNumber tail = true) (hblank : skip tail = []) :
    read (String.ofList (write indent 0 v ++ tail)) = .ok v := by
  rw [← keepsWithin_maxDigits] at hv
  unfold read
  simp only [String.toList_ofList, if_neg (head?_write_ne_mark indent hv tail)]
  exact readWith_write indent hv hnumber hblank

theorem read_compact {v : Value} (hv : keeps v = true) : read (compact v) = .ok v := by
  have hread : read (String.ofList (write none 0 v ++ [])) = .ok v := read_write none hv rfl rfl
  simpa [compact] using hread

/-- The body of an answer is read like a document. -/
theorem readBody_compact {v : Value} (hv : keeps v = true) : readBody (compact v) = .ok v := by
  rw [← keepsWithin_maxDigits] at hv
  have hmark := head?_write_ne_mark none hv []
  have hread : readWith (some maxDigits) (write none 0 v ++ []) = .ok v :=
    readWith_write none hv rfl rfl
  rw [List.append_nil] at hmark hread
  have hbody : bodyText (compact v) = write none 0 v := by
    unfold bodyText compact
    rw [String.toList_ofList]
    cases hwrite : write none 0 v with
    | nil => rfl
    | cons c cs =>
      rw [hwrite, List.head?_cons, Ne, Option.some.injEq] at hmark
      exact if_neg hmark
  rw [readBody, hbody, hread]

end SqlBridge.Document
