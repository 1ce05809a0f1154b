import SqlBridge.Failure
import Mathlib.Data.List.Forall2

/-!
Sequences of outcomes, and outcomes of two runs. Two outcomes are alike when both are data related
by `R`, or both are the same failure. Sequencing preserves this relation, so a relation between two
runs is proved step by step.
-/

namespace SqlBridge.Outcome

variable {α β γ δ : Type}

@[simp] theorem ok_bind (a : α) (k : α → Outcome β) :
    ((Except.ok a : Outcome α) >>= k) = k a := rfl

@[simp] theorem error_bind (f : Failure) (k : α → Outcome β) :
    ((Except.error f : Outcome α) >>= k) = .error f := rfl

@[simp] theorem pure_eq_ok (a : α) : (pure a : Outcome α) = .ok a := rfl

@[simp] theorem map_ok (g : α → β) (a : α) : (Except.ok a : Outcome α).map g = .ok (g a) := rfl

@[simp] theorem map_error (g : α → β) (f : Failure) :
    (Except.error f : Outcome α).map g = .error f := rfl

theorem not_exists_error_eq_ok (f : Failure) : ¬∃ a, (Except.error f : Outcome α) = .ok a := by
  rintro ⟨a, ha⟩
  cases ha

theorem bind_eq_ok_iff {o : Outcome α} {k : α → Outcome β} {b : β} :
    (o >>= k) = .ok b ↔ ∃ a, o = .ok a ∧ k a = .ok b := by
  cases o with
  | ok a => simp
  | error f => simp

theorem map_eq_ok_iff {o : Outcome α} {g : α → β} {b : β} :
    o.map g = .ok b ↔ ∃ a, o = .ok a ∧ g a = b := by
  cases o with
  | ok a => simp
  | error f => simp

theorem mapM_cons_eq_ok_iff {g : α → Outcome β} {a : α} {items : List α} {result : List β} :
    (a :: items).mapM g = .ok result ↔
      ∃ b rest, g a = .ok b ∧ items.mapM g = .ok rest ∧ result = b :: rest := by
  simp only [List.mapM_cons, bind_eq_ok_iff, pure_eq_ok]
  constructor
  · rintro ⟨b, hb, rest, hrest, heq⟩
    cases heq
    exact ⟨b, rest, hb, hrest, rfl⟩
  · rintro ⟨b, rest, hb, hrest, rfl⟩
    exact ⟨b, hb, rest, hrest, rfl⟩

theorem mapM_eq_ok_of_forall {g : α → Outcome β} {h : α → β} {items : List α}
    (heq : ∀ a ∈ items, g a = .ok (h a)) : items.mapM g = .ok (items.map h) := by
  induction items with
  | nil => rfl
  | cons a rest ih =>
    have hrest := ih fun b hb => heq b (List.mem_cons_of_mem a hb)
    simp [List.mapM_cons, heq a List.mem_cons_self, hrest]

/-- A traversal succeeds with the data of all items if every item succeeds with its own. -/
theorem mapM_eq_ok_of_forall₂ {R : α → β → Prop} {g : α → Outcome γ} {h : β → γ}
    {items : List α} {others : List β} (hitems : List.Forall₂ R items others)
    (hg : ∀ a b, R a b → g a = .ok (h b)) : items.mapM g = .ok (others.map h) := by
  induction hitems with
  | nil => rfl
  | cons hab _ ih => simp [List.mapM_cons, hg _ _ hab, ih]

theorem exists_mapM_eq_ok {g : α → Outcome β} {P : β → Prop} {items : List α}
    (h : ∀ a ∈ items, ∃ b, g a = .ok b ∧ P b) :
    ∃ result, items.mapM g = .ok result ∧ ∀ b ∈ result, P b := by
  induction items with
  | nil => exact ⟨[], rfl, by simp⟩
  | cons a rest ih =>
    obtain ⟨b, hb, hP⟩ := h a List.mem_cons_self
    obtain ⟨bs, hbs, hrest⟩ := ih fun c hc => h c (List.mem_cons_of_mem a hc)
    refine ⟨b :: bs, mapM_cons_eq_ok_iff.mpr ⟨b, bs, hb, hbs, rfl⟩, ?_⟩
    intro c hc
    rcases List.mem_cons.mp hc with rfl | hc
    · exact hP
    · exact hrest c hc

/-- A traversal fails with the failure of the first failing item. -/
theorem mapM_eq_error {g : α → Outcome β} {items before after : List α} {a : α} {f : Failure}
    (hitems : items = before ++ a :: after) (hbefore : ∀ b ∈ before, ∃ c, g b = .ok c)
    (ha : g a = .error f) : items.mapM g = .error f := by
  induction before generalizing items with
  | nil => simp [hitems, List.mapM_cons, ha]
  | cons b rest ih =>
    obtain ⟨c, hc⟩ := hbefore b List.mem_cons_self
    have hrest := ih rfl fun d hd => hbefore d (List.mem_cons_of_mem b hd)
    simp [hitems, List.mapM_cons, hc, hrest]

theorem forM_eq_ok_of_forall {g : α → Outcome Unit} {items : List α}
    (heq : ∀ a ∈ items, g a = .ok ()) : items.forM g = .ok () := by
  induction items with
  | nil => rfl
  | cons a rest ih =>
    have hrest := ih fun b hb => heq b (List.mem_cons_of_mem a hb)
    change (g a >>= fun _ => rest.forM g) = .ok ()
    rw [heq a List.mem_cons_self, ok_bind, hrest]

/-- Outcomes with at most one possible failure. -/
def FailsOnlyBy (f : Failure) (o : Outcome α) : Prop := ∀ g, o = .error g → g = f

namespace FailsOnlyBy

variable {f : Failure}

theorem ok (a : α) : FailsOnlyBy f (.ok a) := fun _ h => nomatch h

theorem error (f : Failure) : FailsOnlyBy f (.error f : Outcome α) := fun _ h =>
  (Except.error.inj h).symm

theorem bind {o : Outcome α} {k : α → Outcome β} (ho : FailsOnlyBy f o)
    (hk : ∀ a, FailsOnlyBy f (k a)) : FailsOnlyBy f (o >>= k) := by
  cases o with
  | ok a => exact hk a
  | error g =>
    intro h herror
    cases herror
    exact ho g rfl

theorem mapM {g : α → Outcome β} (items : List α) (hg : ∀ a, FailsOnlyBy f (g a)) :
    FailsOnlyBy f (items.mapM g) := by
  induction items with
  | nil => exact .ok []
  | cons a rest ih =>
    rw [List.mapM_cons]
    exact (hg a).bind fun b => ih.bind fun bs => .ok (b :: bs)

end FailsOnlyBy

/-- Both outcomes are data related by `R`, or both are the same failure. -/
inductive Alike (R : α → β → Prop) : Outcome α → Outcome β → Prop
  | ok {a : α} {b : β} (h : R a b) : Alike R (.ok a) (.ok b)
  | error (f : Failure) : Alike R (.error f) (.error f)

namespace Alike

variable {R : α → β → Prop} {S : γ → δ → Prop}

theorem refl {R : α → α → Prop} (hR : ∀ a, R a a) (o : Outcome α) : Alike R o o := by
  cases o with
  | ok a => exact .ok (hR a)
  | error f => exact .error f

theorem mono {S : α → β → Prop} {o : Outcome α} {o' : Outcome β} (h : Alike R o o')
    (hS : ∀ a b, R a b → S a b) : Alike S o o' := by
  cases h with
  | ok hab => exact .ok (hS _ _ hab)
  | error f => exact .error f

theorem bind {o : Outcome α} {o' : Outcome β} {k : α → Outcome γ} {k' : β → Outcome δ}
    (h : Alike R o o') (hk : ∀ a b, R a b → Alike S (k a) (k' b)) :
    Alike S (o >>= k) (o' >>= k') := by
  cases h with
  | ok hab => exact hk _ _ hab
  | error f => exact .error f

/-- Runs with the same first outcome are alike if their continuations are. -/
theorem after (o : Outcome α) {k : α → Outcome γ} {k' : α → Outcome δ}
    (hk : ∀ a, Alike S (k a) (k' a)) : Alike S (o >>= k) (o >>= k') := by
  cases o with
  | ok a => exact hk a
  | error f => exact .error f

theorem map {o : Outcome α} {o' : Outcome β} {g : α → γ} {g' : β → δ}
    (h : Alike R o o') (hg : ∀ a b, R a b → S (g a) (g' b)) :
    Alike S (o.map g) (o'.map g') := by
  cases h with
  | ok hab => exact .ok (hg _ _ hab)
  | error f => exact .error f

theorem mapM {g : α → Outcome γ} {g' : β → Outcome δ} {items : List α} {items' : List β}
    (h : List.Forall₂ R items items') (hg : ∀ a b, R a b → Alike S (g a) (g' b)) :
    Alike (List.Forall₂ S) (items.mapM g) (items'.mapM g') := by
  induction h with
  | nil => exact .ok .nil
  | cons hab _ ih =>
    simp only [List.mapM_cons]
    apply (hg _ _ hab).bind
    intro c d hcd
    apply ih.bind
    intro cs ds hcds
    exact .ok (.cons hcd hcds)

theorem forM {g : α → Outcome Unit} {g' : β → Outcome Unit} {items : List α} {items' : List β}
    (h : List.Forall₂ R items items') (hg : ∀ a b, R a b → Alike Eq (g a) (g' b)) :
    Alike Eq (items.forM g) (items'.forM g') := by
  induction h with
  | nil => exact .ok rfl
  | @cons a b rest rest' hab _ ih =>
    change Alike Eq (g a >>= fun _ => rest.forM g) (g' b >>= fun _ => rest'.forM g')
    exact (hg a b hab).bind fun _ _ _ => ih

end Alike

end SqlBridge.Outcome
