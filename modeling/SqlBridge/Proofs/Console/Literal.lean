import Mathlib.Data.List.Infix
import SqlBridge.Console.Markup
import SqlBridge.Proofs.Outcome

/-!
Texts that markup leaves unchanged. Tags of a text are parsed first, pictures are replaced next, and
controls are removed last; a text without any of these is shown character by character. Only tags
can make the parsing fail.
-/

namespace SqlBridge.Console

/-- Whether no tag begins anywhere in a text. -/
def isUntagged (cs : List Char) : Bool := cs.tails.all fun tail => (tagAt? tail).isNone

/-- Whether a text holds no markup: no tag, no backslash before a bracket, no name of a picture and
no control. -/
def isLiteral (cs : List Char) : Bool :=
  isUntagged cs && unescaped cs = cs && withPictures cs = cs && withoutControls cs = cs

theorem isLiteral_iff {cs : List Char} :
    isLiteral cs = true ↔ isUntagged cs = true ∧ unescaped cs = cs ∧ withPictures cs = cs ∧
      withoutControls cs = cs := by
  simp only [isLiteral, Bool.and_eq_true, decide_eq_true_eq, and_assoc]

theorem isUntagged_cons {c : Char} {cs : List Char} :
    isUntagged (c :: cs) = true ↔ tagAt? (c :: cs) = none ∧ isUntagged cs = true := by
  simp [isUntagged, List.tails]

/-- Without tags a text is one token. -/
theorem tokensFrom_of_isUntagged {cs : List Char} (h : isUntagged cs = true) (pending : List Char) :
    tokensFrom 0 pending cs = pendingText (cs.reverse ++ pending) := by
  induction cs generalizing pending with
  | nil => rfl
  | cons c rest ih =>
    obtain ⟨htag, hrest⟩ := isUntagged_cons.mp h
    rw [tokensFrom, if_neg (Nat.lt_irrefl 0), htag]
    simp only [ih hrest]
    simp

theorem unescaped_of_not_mem {cs : List Char} (h : '[' ∉ cs) : unescaped cs = cs := by
  induction cs with
  | nil => rfl
  | cons c rest ih =>
    simp only [List.mem_cons, not_or] at h
    have hhead : rest.head? ≠ some '[' := fun hhead => h.2 (List.mem_of_head? hhead)
    rw [unescaped, if_neg (by simp [hhead]), ih h.2]

/-- A text without tags is shown with its pictures replaced, and without controls and the
backslashes before brackets. -/
theorem renderMarkup_of_isUntagged {cs : List Char} (h : isUntagged cs = true) :
    renderMarkup cs = .ok (withoutControls (withPictures (unescaped cs))) := by
  unfold renderMarkup
  by_cases hbracket : cs.contains '[' = true
  · have htokens : tokensFrom 0 [] cs = [.text cs] := by
      rw [tokensFrom_of_isUntagged h, List.append_nil, pendingText, List.reverse_reverse, if_neg]
      intro hempty
      rw [List.isEmpty_iff, List.reverse_eq_nil_iff] at hempty
      subst hempty
      cases hbracket
    rw [if_pos hbracket, htokens]
    simp [renderTokens]
  · rw [if_neg hbracket, unescaped_of_not_mem (by simpa using hbracket)]

theorem renderMarkup_of_isLiteral {cs : List Char} (h : isLiteral cs = true) :
    renderMarkup cs = .ok cs := by
  obtain ⟨huntagged, hunescaped, hpictures, hcontrols⟩ := isLiteral_iff.mp h
  rw [renderMarkup_of_isUntagged huntagged, hunescaped, hpictures, hcontrols]

/-- A text between a tag and its closing tag is shown without them. -/
theorem renderMarkup_of_enclosed {name word cs : List Char} (hbracket : cs.contains '[' = true)
    (htokens : tokensFrom 0 [] cs =
      [.tag name none, .text word, .tag ('/' :: name) none])
    (hopening : name.head? ≠ some '/') (htrim : Text.trimBy Text.isBlank name = name)
    (hword : isLiteral word = true) : renderMarkup cs = .ok word := by
  obtain ⟨-, hunescaped, hpictures, hcontrols⟩ := isLiteral_iff.mp hword
  have hclose : closeTag name [⟨Style.normal name, none⟩] =
      some (⟨Style.normal name, none⟩, []) := by
    simp [closeTag]
  have hcallable : OpenTag.isCallable ⟨Style.normal name, none⟩ = true := by
    unfold OpenTag.isCallable
    split
    · next heq => cases heq
    · rfl
  rw [renderMarkup, if_pos hbracket, htokens, renderTokens, renderTokens, renderTokens, htrim,
    hclose]
  · simp only [hcallable, if_true, renderTokens, hunescaped, hpictures, hcontrols]
    simp
  · rintro rest heq
    exact hopening (heq ▸ rfl)

section Plain

variable {cs : List Char}

theorem tagAt?_of_not_mem (h : '[' ∉ cs) : tagAt? cs = none := by
  unfold tagAt?
  have hdrop : '[' ∉ cs.drop (cs.takeWhile (· = '\\')).length := fun hmem =>
    h (List.mem_of_mem_drop hmem)
  dsimp only
  split
  · next heq => exact absurd (heq ▸ List.mem_cons_self) hdrop
  · rfl

theorem isUntagged_of_not_mem (h : '[' ∉ cs) : isUntagged cs = true := by
  refine List.all_eq_true.mpr fun tail htail => ?_
  rw [Option.isNone_iff_eq_none]
  exact tagAt?_of_not_mem fun hmem => h (((List.mem_tails _ _).mp htail).subset hmem)

theorem withPictures_of_not_mem (h : ':' ∉ cs) : withPictures cs = cs := by
  unfold withPictures
  induction cs with
  | nil => rfl
  | cons c rest ih =>
    simp only [List.mem_cons, not_or] at h
    rw [withPicturesFrom, if_neg (Nat.lt_irrefl 0), if_neg (Ne.symm h.1), ih h.2]

/-- Whether a character is not part of markup in any position. -/
def isPlain (c : Char) : Bool :=
  c ≠ '[' && c ≠ ':' && !Text.inRanges [(0x7, 0x8), (0xB, 0xD)] c

theorem isLiteral_of_all_isPlain (h : cs.all isPlain = true) : isLiteral cs = true := by
  have hplain : ∀ c ∈ cs, (c ≠ '[' ∧ c ≠ ':') ∧
      Text.inRanges [(0x7, 0x8), (0xB, 0xD)] c = false := by
    simpa [isPlain] using h
  have hbracket : '[' ∉ cs := fun hmem => (hplain _ hmem).1.1 rfl
  have hcolon : ':' ∉ cs := fun hmem => (hplain _ hmem).1.2 rfl
  refine isLiteral_iff.mpr ⟨isUntagged_of_not_mem hbracket, unescaped_of_not_mem hbracket,
    withPictures_of_not_mem hcolon, ?_⟩
  exact List.filter_eq_self.mpr fun c hc => by simp [(hplain c hc).2]

end Plain

section Shortening

/-- The number of characters in the texts of tokens. -/
def textLength : List Token → ℕ
  | [] => 0
  | .text cs :: rest => cs.length + textLength rest
  | .tag _ _ :: rest => textLength rest

theorem textLength_append (ts us : List Token) :
    textLength (ts ++ us) = textLength ts + textLength us := by
  induction ts with
  | nil => simp [textLength]
  | cons t rest ih =>
    cases t with
    | text cs => rw [List.cons_append, textLength, textLength, ih, Nat.add_assoc]
    | tag name parameter => exact ih

theorem textLength_pendingText (pending : List Char) :
    textLength (pendingText pending) = pending.length := by
  cases pending <;> simp [pendingText, textLength]

theorem untilBracket?_length {cs body : List Char} (h : untilBracket? cs = some body) :
    body.length < cs.length := by
  induction cs generalizing body with
  | nil => cases h
  | cons c rest ih =>
    rw [untilBracket?] at h
    split_ifs at h
    · cases h
      simp
    · obtain ⟨before, hbefore, rfl⟩ := Option.map_eq_some_iff.mp h
      simpa using ih hbefore

theorem tagAt?_length {cs body : List Char} {slashes : ℕ} (h : tagAt? cs = some (slashes, body)) :
    slashes + body.length + 2 ≤ cs.length := by
  unfold tagAt? at h
  dsimp only at h
  split at h
  · next c rest hdrop =>
    split_ifs at h
    obtain ⟨before, hbefore, heq⟩ := Option.map_eq_some_iff.mp h
    cases heq
    have hbody := untilBracket?_length hbefore
    have hlength := congrArg List.length hdrop
    simp only [List.length_drop, List.length_cons] at hlength hbody
    omega
  · cases h

/-- The tokens of a tag have fewer characters than the tag. -/
theorem textLength_tagTokens (slashes : ℕ) (body : List Char) :
    textLength (tagTokens slashes body) < slashes + body.length + 2 := by
  unfold tagTokens
  rw [textLength_append]
  have hslashes : textLength (if slashes / 2 = 0 then []
      else [.text (List.replicate (slashes / 2) '\\')]) = slashes / 2 := by
    split_ifs with hnone <;> simp [textLength, hnone]
  rw [hslashes]
  split_ifs with hodd
  · simp only [textLength, List.length_cons, List.length_append, List.length_nil]
    omega
  · dsimp only
    split <;> simp only [textLength] <;> omega

theorem textLength_tokensFrom (skip : ℕ) (pending cs : List Char) :
    textLength (tokensFrom skip pending cs) ≤ pending.length + (cs.length - skip) := by
  induction cs generalizing skip pending with
  | nil => simp [tokensFrom, textLength_pendingText]
  | cons c rest ih =>
    rw [tokensFrom]
    split_ifs with hskip
    · have hrest := ih (skip - 1) pending
      simp only [List.length_cons]
      omega
    · split
      · next slashes body htag =>
        have hfits := tagAt?_length htag
        have htokens := textLength_tagTokens slashes body
        have hrest := ih (slashes + body.length + 1) []
        simp only [textLength_append, textLength_pendingText, List.length_cons, List.length_nil]
          at hfits hrest ⊢
        omega
      · have hrest := ih 0 (c :: pending)
        simp only [List.length_cons] at hrest ⊢
        omega

/-- The tokens of a text with a tag have fewer characters than the text. -/
theorem textLength_lt_of_tag {cs : List Char} (h : isUntagged cs = false) (pending : List Char) :
    textLength (tokensFrom 0 pending cs) < pending.length + cs.length := by
  induction cs generalizing pending with
  | nil => cases h
  | cons c rest ih =>
    rw [tokensFrom, if_neg (Nat.lt_irrefl 0)]
    split
    · next slashes body htag =>
      have hfits := tagAt?_length htag
      have htokens := textLength_tagTokens slashes body
      have hrest := textLength_tokensFrom (slashes + body.length + 1) [] rest
      simp only [textLength_append, textLength_pendingText, List.length_cons, List.length_nil]
        at hfits hrest ⊢
      omega
    · next htag =>
      have huntagged : isUntagged rest = false := by
        rw [← Bool.not_eq_true] at h ⊢
        exact fun hrest => h (isUntagged_cons.mpr ⟨htag, hrest⟩)
      have hrest := ih huntagged (c :: pending)
      simp only [List.length_cons] at hrest ⊢
      omega

theorem untilBracket?_subset {cs body : List Char} (h : untilBracket? cs = some body) :
    ∀ c ∈ body, c ∈ cs := by
  induction cs generalizing body with
  | nil => cases h
  | cons c rest ih =>
    rw [untilBracket?] at h
    split_ifs at h
    · cases h
      simp
    · obtain ⟨before, hbefore, rfl⟩ := Option.map_eq_some_iff.mp h
      intro d hd
      rcases List.mem_cons.mp hd with rfl | hmem
      · exact List.mem_cons_self
      · exact List.mem_cons_of_mem _ (ih hbefore d hmem)

theorem tagAt?_subset {cs body : List Char} {slashes : ℕ} (h : tagAt? cs = some (slashes, body)) :
    ∀ c ∈ body, c ∈ cs := by
  unfold tagAt? at h
  dsimp only at h
  split at h
  · next c rest hdrop =>
    split_ifs at h
    obtain ⟨before, hbefore, heq⟩ := Option.map_eq_some_iff.mp h
    cases heq
    intro d hd
    have hmem : d ∈ '[' :: c :: rest := List.mem_cons_of_mem _ (untilBracket?_subset hbefore d hd)
    exact List.mem_of_mem_drop (hdrop ▸ hmem)
  · cases h

section Characters

variable {P : Char → Prop} {t : List Char}

theorem forall_pendingText {pending : List Char} (h : ∀ c ∈ pending, P c)
    (ht : .text t ∈ pendingText pending) : ∀ c ∈ t, P c := by
  unfold pendingText at ht
  split_ifs at ht
  · cases ht
  · cases List.mem_singleton.mp ht
    exact fun c hc => h c (List.mem_reverse.mp hc)

theorem forall_tagTokens (hslash : P '\\') (hopen : P '[') (hclose : P ']') {slashes : ℕ}
    {body : List Char} (h : ∀ c ∈ body, P c) (ht : .text t ∈ tagTokens slashes body) :
    ∀ c ∈ t, P c := by
  unfold tagTokens at ht
  rcases List.mem_append.mp ht with hslashes | htag
  · split_ifs at hslashes
    · cases hslashes
    · cases List.mem_singleton.mp hslashes
      exact fun c hc => (List.mem_replicate.mp hc).2 ▸ hslash
  · split_ifs at htag
    · cases List.mem_singleton.mp htag
      intro c hc
      rcases List.mem_append.mp hc with hbody | hlast
      · rcases List.mem_cons.mp hbody with rfl | hmem
        · exact hopen
        · exact h c hmem
      · exact List.mem_singleton.mp hlast ▸ hclose
    · dsimp only at htag
      split at htag <;> cases List.mem_singleton.mp htag

/-- The characters in the texts of tokens are characters of the text or of tags. -/
theorem forall_tokensFrom (hslash : P '\\') (hopen : P '[') (hclose : P ']') {skip : ℕ}
    {pending cs : List Char} (hpending : ∀ c ∈ pending, P c) (hcs : ∀ c ∈ cs, P c)
    (ht : .text t ∈ tokensFrom skip pending cs) : ∀ c ∈ t, P c := by
  induction cs generalizing skip pending with
  | nil => exact forall_pendingText hpending ht
  | cons c rest ih =>
    obtain ⟨hc, hrest⟩ := List.forall_mem_cons.mp hcs
    rw [tokensFrom] at ht
    split_ifs at ht
    · exact ih hpending hrest ht
    · split at ht
      · next slashes body htag =>
        rcases List.mem_append.mp ht with hbefore | hlater
        · rcases List.mem_append.mp hbefore with hheld | htokens
          · exact forall_pendingText hpending hheld
          · exact forall_tagTokens hslash hopen hclose
              (fun d hd => hcs d (tagAt?_subset htag d hd)) htokens
        · exact ih (by simp) hrest hlater
      · exact ih (List.forall_mem_cons.mpr ⟨hc, hpending⟩) hrest ht

end Characters

theorem unescaped_sublist (cs : List Char) : (unescaped cs).Sublist cs := by
  induction cs with
  | nil => exact .refl _
  | cons c rest ih =>
    rw [unescaped]
    split_ifs
    · exact ih.cons c
    · exact ih.cons_cons c

/-- Without colons, rendering only removes characters. -/
theorem shown_sublist {cs : List Char} (h : ':' ∉ cs) :
    (withoutControls (withPictures (unescaped cs))).Sublist cs := by
  have hcolon : ':' ∉ unescaped cs := fun hmem => h ((unescaped_sublist cs).subset hmem)
  rw [withPictures_of_not_mem hcolon]
  exact List.filter_sublist.trans (unescaped_sublist cs)

/-- Rendered tokens without colons have at most as many characters as their texts. -/
theorem length_renderTokens {tokens : List Token} {opened : List OpenTag} {shown : List Char}
    (h : ∀ t, .text t ∈ tokens → ':' ∉ t) (hshown : renderTokens opened tokens = .ok shown) :
    shown.length ≤ textLength tokens := by
  induction tokens generalizing opened shown with
  | nil =>
    cases hshown
    exact Nat.zero_le _
  | cons token rest ih =>
    have hrest : ∀ t, .text t ∈ rest → ':' ∉ t := fun t ht => h t (List.mem_cons_of_mem _ ht)
    cases token with
    | text cs =>
      obtain ⟨later, hlater, heq⟩ := Outcome.bind_eq_ok_iff.mp hshown
      cases heq
      have hfirst := (shown_sublist (h cs List.mem_cons_self)).length_le
      have hmore := ih hrest hlater
      rw [List.length_append, textLength]
      omega
    | tag name parameter =>
      rw [renderTokens.eq_def] at hshown
      split at hshown
      · next heq => cases heq
      · next heq => cases heq
      · next heq =>
        cases heq
        split at hshown
        · split_ifs at hshown
          exact ih hrest hshown
        · cases hshown
      · next heq =>
        cases heq
        exact ih hrest hshown

/-- A text without colons is shown unchanged exactly if it holds no markup. -/
theorem renderMarkup_eq_self_iff {cs : List Char} (h : ':' ∉ cs) :
    renderMarkup cs = .ok cs ↔ isLiteral cs = true := by
  refine ⟨fun hshown => ?_, renderMarkup_of_isLiteral⟩
  have huntagged : isUntagged cs = true := by
    by_contra htag
    have hbracket : '[' ∈ cs := by
      by_contra hnone
      exact htag (isUntagged_of_not_mem hnone)
    rw [renderMarkup, if_pos (by simpa using hbracket)] at hshown
    have hshorter := textLength_lt_of_tag (Bool.not_eq_true _ ▸ htag) []
    have hlength := length_renderTokens (fun t ht hmem => by
      have hcolon := forall_tokensFrom (P := (· ≠ ':')) (by decide) (by decide) (by decide)
        (by simp) (fun c hc heq => h (heq ▸ hc)) ht
      exact hcolon _ hmem rfl) hshown
    simp only [List.length_nil] at hshorter
    omega
  have hkept : withoutControls (withPictures (unescaped cs)) = cs := by
    rw [renderMarkup_of_isUntagged huntagged] at hshown
    exact Except.ok.inj hshown
  have hcolon : ':' ∉ unescaped cs := fun hmem => h ((unescaped_sublist cs).subset hmem)
  rw [withPictures_of_not_mem hcolon] at hkept
  have hunescaped : unescaped cs = cs := by
    refine (unescaped_sublist cs).eq_of_length_le ?_
    exact (congrArg List.length hkept).symm.le.trans List.filter_sublist.length_le
  rw [hunescaped] at hkept
  exact isLiteral_iff.mpr ⟨huntagged, hunescaped, withPictures_of_not_mem h, hkept⟩

end Shortening

end SqlBridge.Console
