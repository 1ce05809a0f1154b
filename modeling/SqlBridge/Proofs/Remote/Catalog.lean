import SqlBridge.Remote.Script

/-!
Answers of a scripted remote side to the catalog statement and to provisioning statements. A reading
returns the names of the current catalog, and no call changes the catalog. Without failing replies,
provisioning succeeds and takes no reply.
-/

namespace SqlBridge

namespace Validation

variable {α β : Type}

theorem within_eq_ok_iff {step : Step} {o : Checked α} {a : α} :
    within step o = .ok a ↔ o = .ok a := by
  cases o <;> simp [within]

theorem exists_of_each {read : α → Checked β} {items : List α} {bs : List β}
    (h : each read items = .ok bs) : ∀ b ∈ bs, ∃ a ∈ items, read a = .ok b := by
  induction items generalizing bs with
  | nil =>
    cases h
    simp
  | cons a rest ih =>
    simp only [each] at h
    cases ha : read a with
    | error issues =>
      rw [ha] at h
      cases hrest : each read rest <;> rw [hrest] at h <;> cases h
    | ok b =>
      cases hrest : each read rest with
      | error issues =>
        rw [ha, hrest] at h
        cases h
      | ok more =>
        rw [ha, hrest] at h
        cases h
        intro c hc
        rcases List.mem_cons.mp hc with rfl | hc
        · exact ⟨a, List.mem_cons_self, ha⟩
        · obtain ⟨a', ha', hread⟩ := ih hrest c hc
          exact ⟨a', List.mem_cons_of_mem a ha', hread⟩

end Validation

namespace Remote

open Validation

/-- A result given by its rows only is read row by row. -/
theorem QueryResult.read_rows (items : List Value) :
    QueryResult.read (.object [("results", .list items)]) =
      (within (.name "results") (eachIndexed object items)).map fun rows =>
        ⟨rows, [], none, []⟩ := by
  have hread : QueryResult.read (.object [("results", .list items)]) =
      (both (within (.name "results") (eachIndexed object items)) (.ok ([], none))).map
        fun x => ⟨x.1, x.2.1, x.2.2, []⟩ := rfl
  rw [hread]
  cases within (.name "results") (eachIndexed object items) <;> rfl

theorem QueryResult.mem_of_read_rows {items : List Value} {r : QueryResult}
    (h : QueryResult.read (.object [("results", .list items)]) = .ok r) :
    ∀ row ∈ r.rows, .object row ∈ items := by
  rw [read_rows] at h
  cases hrows : within (.name "results") (eachIndexed object items) with
  | error issues =>
    rw [hrows] at h
    cases h
  | ok rows =>
    rw [hrows] at h
    cases h
    intro row hrow
    obtain ⟨⟨v, i⟩, hv, hread⟩ := exists_of_each (within_eq_ok_iff.mp hrows) row hrow
    have hobject : object v = .ok row := within_eq_ok_iff.mp hread
    cases v with
    | object fields =>
      cases hobject
      exact (List.mem_zipIdx' hv).2 ▸ List.getElem_mem _
    | _ => cases hobject

namespace Script

/-- A catalog whose names are texts. Rows without a name, or with a falsy one, are ignored. -/
def TextNamed (catalog : List Value) : Prop :=
  ∀ row ∈ catalog, ∀ fields, catalogRow row = .object fields →
    (Value.field fields "name").truthy = true → (Value.field fields "name").isText = true

/-- The names returned by a reading of the catalog, none if it fails. -/
def listed (s : Script) : List Value :=
  match s.catalogResult catalogSql with
  | .ok r => r.tableNames
  | .error _ => []

theorem isText_of_mem_listed {s : Script} (h : TextNamed s.catalog) :
    ∀ name ∈ s.listed, name.isText = true := by
  intro name hname
  unfold listed catalogResult at hname
  cases herror : s.catalogError with
  | some message => simp [herror] at hname
  | none =>
    simp only [herror] at hname
    cases hread : QueryResult.read
        (.object [("results", .list (s.catalog.map catalogRow))]) with
    | error issues => simp [hread, ofChecked] at hname
    | ok r =>
      simp only [hread, ofChecked, QueryResult.tableNames, List.mem_filter, List.mem_map] at hname
      obtain ⟨⟨fields, hfields, rfl⟩, htruthy⟩ := hname
      have hrow := QueryResult.mem_of_read_rows hread fields hfields
      obtain ⟨row, hmem, hobject⟩ := List.mem_map.mp hrow
      exact h row hmem fields hobject htruthy

theorem answer_catalog (params : List Value) (s : Script) :
    answer ⟨catalogSql, params⟩ s = (s.catalogResult catalogSql, s) := by
  simp [answer]

/-- A call does not change the catalog. -/
theorem catalog_answer (call : Call) (s : Script) :
    (answer call s).2.catalog = s.catalog ∧
      (answer call s).2.catalogError = s.catalogError := by
  unfold answer
  split
  · exact ⟨rfl, rfl⟩
  · split
    · exact ⟨rfl, rfl⟩
    · split <;> exact ⟨rfl, rfl⟩

theorem listed_eq {s s' : Script} (hcatalog : s.catalog = s'.catalog)
    (herror : s.catalogError = s'.catalogError) : s.listed = s'.listed := by
  unfold listed catalogResult
  rw [hcatalog, herror]

theorem ne_catalog_of_isProvisioning {sql : String} (h : isProvisioning sql = true) :
    sql ≠ catalogSql := by
  rintro rfl
  exact absurd h (by decide)

/-- Replies without failures. -/
def Friendly (s : Script) : Prop := ∀ reply ∈ s.replies, reply.isFailure = false

/-- A provisioning statement succeeds and takes no reply. -/
theorem answer_provisioning {call : Call} {s : Script}
    (hsql : isProvisioning call.sql = true) (h : s.Friendly) :
    answer call s = (.ok QueryResult.empty, s) := by
  unfold answer
  rw [if_neg (ne_catalog_of_isProvisioning hsql)]
  cases hreplies : s.replies with
  | nil => rfl
  | cons reply rest =>
    have hreply : reply.isFailure = false := h reply (by simp [hreplies])
    simp only [hsql, hreply, Bool.not_false, Bool.and_self, if_true]

theorem Friendly.answer {s : Script} (h : s.Friendly) (call : Call) :
    (answer call s).2.Friendly := by
  unfold Script.answer
  split
  · exact h
  · cases hreplies : s.replies with
    | nil => exact h
    | cons reply rest =>
      have hrest : ∀ other ∈ rest, other.isFailure = false := by
        intro other hother
        exact h other (by simp [hreplies, hother])
      simp only
      split
      · exact h
      · exact hrest

end Script

end Remote

end SqlBridge
