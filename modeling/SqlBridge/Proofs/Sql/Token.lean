import SqlBridge.Proofs.Sql.Placeholder

/-!
Tokens of statements: names, placeholders and everything else. The tokenizer scans the characters
with a state: between two tokens, in a word, in a quoted name, or after a quote that may end one.
After a text that ends before a sign the scan continues as from its initial state, so statements are
tokenized piece by piece.
-/

namespace SqlBridge.Sql

/-- The tokens of a statement besides keywords, numbers and signs. -/
inductive Token where
  | bare (name : String)
  | quoted (name : String)
  | mark
deriving DecidableEq

/-- The name of a token. -/
def Token.name? : Token → Option String
  | .bare name => some name
  | .quoted name => some name
  | .mark => none

/-- The characters that are signs in a statement. -/
def isSign (c : Char) : Bool := " \n(),=!<>*".toList.contains c

/-- The characters of words: letters and digits, and all characters outside ASCII. -/
def isWordChar (c : Char) : Bool := c.isAlphanum || c = '_' || c = '$' || 0x80 ≤ c.toNat

/-- The tokens of a word. Numbers, which begin with a digit, and keywords in any case are not names.
-/
def wordTokens (word : List Char) : List Token :=
  if word.head?.any Text.isAsciiDigit
      || reservedWords.contains (String.ofList (word.map Char.toLower)) then []
  else [.bare (String.ofList word)]

/-- The state of the tokenizer. The characters of a word or name are held in reverse. -/
inductive Place where
  | between
  | word (seen : List Char)
  | quotes (seen : List Char)
  | closing (seen : List Char)
deriving DecidableEq

namespace Place

/-- The tokens completed by the end of a text; inside quotes the text may not end. -/
def finish : Place → Option (List Token)
  | between => some []
  | word seen => some (wordTokens seen.reverse)
  | quotes _ => none
  | closing seen => some [.quoted (String.ofList seen.reverse)]

def start (c : Char) : Option (List Token × Place) :=
  if c = '"' then some ([], quotes [])
  else if c = '?' then some ([.mark], between)
  else if isWordChar c then some ([], word [c])
  else if isSign c then some ([], between)
  else none

/-- The tokens completed by a character, and the next state. Words and names have to be followed by
a sign. -/
def step : Place → Char → Option (List Token × Place)
  | between, c => start c
  | word seen, c =>
    if isWordChar c then some ([], word (c :: seen))
    else if isSign c then some (wordTokens seen.reverse, between)
    else none
  | quotes seen, c => if c = '"' then some ([], closing seen) else some ([], quotes (c :: seen))
  | closing seen, c =>
    if c = '"' then some ([], quotes ('"' :: seen))
    else if isSign c then some ([.quoted (String.ofList seen.reverse)], between)
    else none

end Place

/-- The tokens of characters and the final state; none if the characters cannot be tokenized. -/
def walk (place : Place) : List Char → Option (List Token × Place)
  | [] => some ([], place)
  | c :: rest =>
    (place.step c).bind fun x => (walk x.2 rest).map fun y => (x.1 ++ y.1, y.2)

/-- The names and placeholders of a statement, in order; none if it cannot be tokenized. -/
def tokens? (text : String) : Option (List Token) :=
  (walk .between text.toList).bind fun x => x.2.finish.map (x.1 ++ ·)

theorem walk_append (place : Place) (cs ds : List Char) :
    walk place (cs ++ ds) =
      (walk place cs).bind fun x => (walk x.2 ds).map fun y => (x.1 ++ y.1, y.2) := by
  induction cs generalizing place with
  | nil => simp [walk]
  | cons c rest ih =>
    simp only [List.cons_append, walk]
    cases place.step c with
    | none => rfl
    | some x =>
      simp only [Option.bind_some, ih]
      cases walk x.2 rest with
      | none => rfl
      | some y => simp [Function.comp_def]

/-- Whether the state is inside a quoted name. -/
def Place.isOpen : Place → Bool
  | quotes _ => true
  | _ => false

theorem count_mark_wordTokens (word : List Char) : (wordTokens word).count .mark = 0 := by
  unfold wordTokens
  split <;> rfl

/-- Signs and the characters of words are neither quotes nor question marks. -/
theorem not_quote_of_isSign {c : Char} (h : isSign c = true ∨ isWordChar c = true) :
    c ≠ '"' ∧ c ≠ '?' := by
  constructor <;> rintro rfl <;> exact absurd h (by decide)

/-- The placeholders completed by one character are those it counts for. -/
theorem counts_step {place after : Place} {c : Char} {found : List Token}
    (h : place.step c = some (found, after)) :
    placeholders place.isOpen [c] = found.count .mark ∧
      quoteAfter place.isOpen [c] = after.isOpen := by
  have hplain : ∀ {inside : Bool}, isSign c = true ∨ isWordChar c = true →
      placeholders inside [c] = 0 ∧ quoteAfter inside [c] = inside := by
    intro inside hc
    have hne := not_quote_of_isSign hc
    simp [placeholders, quoteAfter, hne]
  cases place with
  | between =>
    simp only [Place.step, Place.start] at h
    split_ifs at h with hquote hmark hword hsign
    · cases h
      simp [placeholders, quoteAfter, hquote, Place.isOpen]
    · cases h
      simp [placeholders, quoteAfter, hmark, Place.isOpen]
    · cases h
      exact hplain (.inr hword)
    · cases h
      exact hplain (.inl hsign)
  | word seen =>
    simp only [Place.step] at h
    split_ifs at h with hword hsign
    · cases h
      exact hplain (.inr hword)
    · cases h
      rw [count_mark_wordTokens]
      exact hplain (.inl hsign)
  | quotes seen =>
    simp only [Place.step] at h
    split_ifs at h with hquote
    · cases h
      simp [placeholders, quoteAfter, hquote, Place.isOpen]
    · cases h
      simp [placeholders, quoteAfter, hquote, Place.isOpen]
  | closing seen =>
    simp only [Place.step] at h
    split_ifs at h with hquote hsign
    · cases h
      simp [placeholders, quoteAfter, hquote, Place.isOpen]
    · cases h
      exact hplain (.inl hsign)

/-- The placeholders of a scan are the question marks outside quotes. -/
theorem counts_walk {place after : Place} {cs : List Char} {found : List Token}
    (h : walk place cs = some (found, after)) :
    placeholders place.isOpen cs = found.count .mark ∧
      quoteAfter place.isOpen cs = after.isOpen := by
  induction cs generalizing place found with
  | nil =>
    cases h
    exact ⟨rfl, rfl⟩
  | cons c rest ih =>
    simp only [walk, Option.bind_eq_some_iff, Option.map_eq_some_iff] at h
    obtain ⟨⟨first, next⟩, hstep, ⟨others, last⟩, hrest, heq⟩ := h
    cases heq
    obtain ⟨hmarks, hopen⟩ := counts_step hstep
    obtain ⟨hmarks', hopen'⟩ := ih hrest
    rw [← List.singleton_append, placeholders_append, quoteAfter_append, hopen, hmarks, hmarks',
      hopen', List.count_append]
    exact ⟨rfl, rfl⟩

/-- A sign completes the tokens that the end of the text would, and leads between tokens. -/
theorem Place.step_of_isSign {place : Place} {found : List Token} (h : place.finish = some found)
    {c : Char} (hc : isSign c = true) : place.step c = some (found, .between) := by
  have hne := not_quote_of_isSign (.inl hc)
  have hword : isWordChar c = false := by
    have hall : " \n(),=!<>*".toList.all (fun d => !isWordChar d) = true := by decide
    simpa using List.all_eq_true.mp hall c (by simpa [isSign] using hc)
  cases place with
  | between =>
    cases h
    simp [step, start, hne, hword, hc]
  | word seen =>
    cases h
    simp [step, hword, hc]
  | quotes seen => cases h
  | closing seen =>
    cases h
    simp [step, hne, hc]

/-- A text that begins with a sign is scanned in the same way from every state in which a text may
end. -/
theorem walk_of_isSign {place : Place} {found : List Token} (h : place.finish = some found)
    {c : Char} (hc : isSign c = true) (rest : List Char) :
    walk place (c :: rest) = (walk .between (c :: rest)).map fun y => (found ++ y.1, y.2) := by
  have hbetween : Place.between.finish = some [] := rfl
  simp only [walk, Place.step_of_isSign h hc, Place.step_of_isSign hbetween hc, Option.bind_some,
    Option.map_map]
  rfl

/-- A text whose first character is a sign. -/
def BeginsWithSign (text : String) : Prop := text.toList.head?.any isSign = true

instance (text : String) : Decidable (BeginsWithSign text) := by
  unfold BeginsWithSign
  infer_instance

theorem BeginsWithSign.append {s : String} (h : BeginsWithSign s) (t : String) :
    BeginsWithSign (s ++ t) := by
  unfold BeginsWithSign at *
  cases hs : s.toList with
  | nil => simp [hs] at h
  | cons c rest => simpa [hs] using h

/-- A text that can be tokenized completely if `good` holds, and breaks off otherwise. -/
structure Legible (good : Prop) (text : String) (found : List Token) : Prop where
  reads : good → tokens? text = some found
  breaks : ¬good → walk .between text.toList = none

/-- A text after which the tokenizer is between two tokens. -/
def Leads (text : String) (found : List Token) : Prop :=
  walk .between text.toList = some (found, .between)

instance (text : String) (found : List Token) : Decidable (Leads text found) := by
  unfold Leads
  infer_instance

theorem exists_walk_of_tokens? {text : String} {found : List Token}
    (h : tokens? text = some found) :
    ∃ first place last, walk .between text.toList = some (first, place) ∧
      place.finish = some last ∧ found = first ++ last := by
  simp only [tokens?, Option.bind_eq_some_iff, Option.map_eq_some_iff] at h
  obtain ⟨⟨first, place⟩, hwalk, last, hlast, rfl⟩ := h
  exact ⟨first, place, last, hwalk, hlast, rfl⟩

/-- The placeholders among the tokens of a text are its placeholders. -/
theorem placeholderCount_eq {text : String} {found : List Token} (h : tokens? text = some found) :
    placeholderCount text = found.count .mark := by
  obtain ⟨first, place, last, hwalk, hlast, rfl⟩ := exists_walk_of_tokens? h
  have hnone : last.count .mark = 0 := by
    cases place with
    | word seen =>
      cases hlast
      exact count_mark_wordTokens _
    | quotes seen => cases hlast
    | _ =>
      cases hlast
      rfl
  rw [List.count_append, hnone]
  exact (counts_walk hwalk).1

theorem Leads.legible {text : String} {found : List Token} (h : Leads text found) :
    Legible True text found where
  reads _ := by
    unfold tokens?
    rw [h]
    simp [Place.finish]
  breaks hnot := absurd trivial hnot

namespace Legible

variable {s t : String} {found more : List Token} {good good' : Prop}

theorem congr (h : Legible good s found) (hgood : good ↔ good') : Legible good' s found where
  reads hg := h.reads (hgood.mpr hg)
  breaks hg := h.breaks fun hgood' => hg (hgood.mp hgood')

/-- A text is tokenized after one that leads to it. -/
theorem after (hs : Leads s found) (ht : Legible good t more) :
    Legible good (s ++ t) (found ++ more) where
  reads hgood := by
    obtain ⟨first, place, last, hwalk, hlast, rfl⟩ := exists_walk_of_tokens? (ht.reads hgood)
    unfold tokens?
    rw [String.toList_append, walk_append, hs]
    simp [hwalk, hlast]
  breaks hnot := by
    rw [String.toList_append, walk_append, hs]
    simp [ht.breaks hnot]

/-- Pieces are tokenized one after another if the second begins with a sign. -/
theorem append (hs : Legible good s found) (ht : Legible good' t more) (hsign : BeginsWithSign t) :
    Legible (good ∧ good') (s ++ t) (found ++ more) := by
  obtain ⟨c, rest, hcs, hc⟩ : ∃ c rest, t.toList = c :: rest ∧ isSign c = true := by
    unfold BeginsWithSign at hsign
    cases hlist : t.toList with
    | nil => simp [hlist] at hsign
    | cons c rest => exact ⟨c, rest, rfl, by simpa [hlist] using hsign⟩
  constructor
  · rintro ⟨hgood, hgood'⟩
    obtain ⟨first, place, last, hwalk, hlast, rfl⟩ := exists_walk_of_tokens? (hs.reads hgood)
    obtain ⟨first', place', last', hwalk', hlast', rfl⟩ := exists_walk_of_tokens? (ht.reads hgood')
    rw [hcs] at hwalk'
    unfold tokens?
    rw [String.toList_append, walk_append, hwalk, Option.bind_some, hcs, walk_of_isSign hlast hc,
      hwalk']
    simp [hlast', List.append_assoc]
  · intro hnot
    rw [String.toList_append, walk_append]
    by_cases hgood : good
    · have hgood' : ¬good' := fun hg => hnot ⟨hgood, hg⟩
      have hbreaks := ht.breaks hgood'
      obtain ⟨first, place, last, hwalk, hlast, -⟩ := exists_walk_of_tokens? (hs.reads hgood)
      rw [hcs] at hbreaks ⊢
      rw [hwalk, Option.bind_some, walk_of_isSign hlast hc, hbreaks]
      rfl
    · rw [hs.breaks hgood]
      rfl

end Legible

/-- The token of a name in a statement. -/
def Token.ofName (name : String) : Token := if needsQuotes name then .quoted name else .bare name

theorem Token.name?_ofName (name : String) : (ofName name).name? = some name := by
  unfold ofName
  split <;> rfl

/-- Between quotes every character belongs to the name, including doubled quotes. -/
theorem walk_doubleQuotes (seen cs : List Char) :
    walk (.quotes seen) (doubleQuotes cs ++ ['"']) = some ([], .closing (cs.reverse ++ seen)) := by
  induction cs generalizing seen with
  | nil => rfl
  | cons c rest ih =>
    have hrest := ih (c :: seen)
    simp only [doubleQuotes] at hrest
    by_cases hc : c = '"'
    · subst hc
      simp [doubleQuotes, walk, Place.step, hrest]
    · simp [doubleQuotes, walk, Place.step, hc, hrest]

theorem walk_word (seen : List Char) {cs : List Char} (h : ∀ c ∈ cs, isWordChar c = true) :
    walk (.word seen) cs = some ([], .word (cs.reverse ++ seen)) := by
  induction cs generalizing seen with
  | nil => rfl
  | cons c rest ih =>
    have hrest := ih (c :: seen) fun d hd => h d (List.mem_cons_of_mem c hd)
    simp [walk, Place.step, h c List.mem_cons_self, hrest]

/-- A property of letters, digits and the four other name characters holds of a bare name. -/
theorem forall_isNameChar {p : Char → Prop} (halnum : ∀ c, c.isAlphanum = true → p c)
    (hrest : p '_' ∧ p '$' ∧ p '\u0131' ∧ p '\u017F') {c : Char} (h : isNameChar c = true) :
    p c := by
  simp only [isNameChar, Bool.or_eq_true, decide_eq_true_eq] at h
  rcases h with (((h | rfl) | rfl) | rfl) | rfl
  · exact halnum c h
  · exact hrest.1
  · exact hrest.2.1
  · exact hrest.2.2.1
  · exact hrest.2.2.2

theorem isWordChar_of_isNameChar {c : Char} (h : isNameChar c = true) : isWordChar c = true :=
  forall_isNameChar (p := fun c => isWordChar c = true)
    (fun c hc => by simp [isWordChar, hc]) (by decide) h

theorem not_isBlank_of_isNameChar {c : Char} (h : isNameChar c = true) :
    Text.isBlank c = false := by
  refine forall_isNameChar (p := fun c => Text.isBlank c = false) (fun c hc => ?_) (by decide) h
  have hrange := Text.toNat_of_isAlphanum hc
  simp only [Text.isBlank, Text.isSpace, Text.inRanges, Text.spaceRanges, List.any_cons,
    List.any_nil, Bool.or_eq_false_iff, Bool.and_eq_false_iff, decide_eq_false_iff_not, and_true]
  omega

/-- A character of a bare name has a single lower-case form, that of ASCII. -/
theorem lowerOne_of_isNameChar {c : Char} (h : isNameChar c = true) :
    Text.lowerOne c = [c.toLower] ∧ c.toNat ≠ 0x3A3 := by
  refine forall_isNameChar (p := fun c => Text.lowerOne c = [c.toLower] ∧ c.toNat ≠ 0x3A3)
    (fun c hc => ?_) (by decide) h
  have hrange := Text.toNat_of_isAlphanum hc
  exact ⟨if_pos (by omega), by omega⟩

theorem lowerFrom_of_isNameChar (before : List Char) {cs : List Char}
    (h : ∀ c ∈ cs, isNameChar c = true) : Text.lowerFrom before cs = cs.map Char.toLower :=
  Text.lowerFrom_eq_map before fun c hc => lowerOne_of_isNameChar (h c hc)

/-- A name written without quotes: name characters in lower case, neither a digit nor a dollar sign
first, and not a reserved word. -/
structure Bare (name : String) : Prop where
  chars : ∀ c ∈ name.toList, isNameChar c = true
  start : ∃ first rest, name.toList = first :: rest ∧ Text.isAsciiDigit first = false ∧ first ≠ '$'
  lower : name.toList.map Char.toLower = name.toList
  free : reservedWords.contains name = false

theorem bare_of_not_needsQuotes {name : String} (hfeed : '\n' ∉ name.toList)
    (h : needsQuotes name = false) : Bare name := by
  have hchars : ∀ c ∈ name.toList, isNameChar c = true := by
    intro c hc
    rcases isNameChar_of_not_needsQuotes h c hc with hname | rfl
    · exact hname
    · exact absurd hc hfeed
  simp only [needsQuotes, Bool.or_eq_false_iff, bne_eq_false_iff_eq] at h
  obtain ⟨⟨⟨hstart, -⟩, hlower⟩, hfree⟩ := h
  refine ⟨hchars, ?_, ?_, ?_⟩
  · cases hcs : name.toList with
    | nil =>
      rw [hcs] at hstart
      cases hstart
    | cons first rest =>
      simp only [hcs, startsBadly, Bool.or_eq_false_iff, decide_eq_false_iff_not] at hstart
      exact ⟨first, rest, rfl, hstart⟩
  · rw [← lowerFrom_of_isNameChar [] hchars]
    exact hlower
  · rw [hlower, String.ofList_toList] at hfree
    exact hfree

/-- The characters of a bare name are word characters, and its token is the name. -/
theorem Bare.plain {name : String} (h : Bare name) :
    ∀ c ∈ name.toList, c ≠ '"' ∧ c ≠ '?' ∧ Text.isBlank c = false := by
  intro c hc
  have hname := h.chars c hc
  obtain ⟨hquote, hmark⟩ := not_quote_of_isSign (.inr (isWordChar_of_isNameChar hname))
  exact ⟨hquote, hmark, not_isBlank_of_isNameChar hname⟩

/-- A name without a line feed is read back from its text in a statement. -/
theorem tokens?_identifier {name : String} (hfeed : '\n' ∉ name.toList) :
    tokens? (identifier name) = some [.ofName name] := by
  unfold tokens? identifier Token.ofName
  cases hquotes : needsQuotes name with
  | true =>
    have hwalk := walk_doubleQuotes [] name.toList
    simp [walk, Place.step, Place.start, hwalk, Place.finish]
  | false =>
    have hbare := bare_of_not_needsQuotes hfeed hquotes
    obtain ⟨first, rest, hcs, hdigit, -⟩ := hbare.start
    have hword : ∀ c ∈ first :: rest, isWordChar c = true := fun c hc =>
      isWordChar_of_isNameChar (hbare.chars c (hcs ▸ hc))
    have hwalk := walk_word [first] fun c hc => hword c (List.mem_cons_of_mem first hc)
    have hfirst := not_quote_of_isSign (.inr (hword first List.mem_cons_self))
    have htokens : wordTokens name.toList = [.bare name] := by
      unfold wordTokens
      rw [hbare.lower, String.ofList_toList, hbare.free, hcs]
      simp [hdigit]
    have hstart : Place.between.step first = some ([], .word [first]) := by
      simp [Place.step, Place.start, hfirst, hword first List.mem_cons_self]
    rw [if_neg Bool.false_ne_true, if_neg Bool.false_ne_true, hcs]
    simp only [walk, hstart, Option.bind_some, hwalk, Option.map_some, Place.finish]
    simp [← hcs, htokens]

/-- Different names have different texts. -/
theorem identifier_injective {name other : String} (hfeed : '\n' ∉ name.toList)
    (hother : '\n' ∉ other.toList) (h : identifier name = identifier other) : name = other := by
  have hread := tokens?_identifier hfeed
  rw [h, tokens?_identifier hother] at hread
  have htoken : Token.ofName other = .ofName name := by simpa using hread
  have hname := congrArg Token.name? htoken
  rw [Token.name?_ofName, Token.name?_ofName] at hname
  exact (Option.some.inj hname).symm

end SqlBridge.Sql
