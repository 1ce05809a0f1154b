import SqlBridge.Proofs.Outcome
import SqlBridge.Task

/-!
The world after a task, by its steps. A sequence runs its first task and, unless that failed,
continues in the world after it.
-/

namespace SqlBridge

namespace World

variable {σ : Type}

@[simp] theorem calls_beginSeed (w : World σ) : w.beginSeed.calls = w.calls := by
  unfold beginSeed
  split <;> rfl

@[simp] theorem registry_beginSeed (w : World σ) : w.beginSeed.registry = w.registry := by
  unfold beginSeed
  split <;> rfl

@[simp] theorem remote_beginSeed (w : World σ) : w.beginSeed.remote = w.remote := by
  unfold beginSeed
  split <;> rfl

@[simp] theorem calls_note (w : World σ) (e : Log.Entry) : (w.note e).calls = w.calls := rfl

@[simp] theorem registry_note (w : World σ) (e : Log.Entry) :
    (w.note e).registry = w.registry := rfl

@[simp] theorem remote_note (w : World σ) (e : Log.Entry) : (w.note e).remote = w.remote := rfl

@[simp] theorem calls_learn (w : World σ) (names : List Value) :
    (w.learn names).calls = w.calls := rfl

@[simp] theorem remote_learn (w : World σ) (names : List Value) :
    (w.learn names).remote = w.remote := rfl

@[simp] theorem calls_record (w : World σ) (call : Call) :
    (w.record call).calls = w.calls ++ [call] := rfl

end World

namespace Task

variable {σ α β : Type} {answer : Executor σ}

theorem bind_assoc {γ : Type} (t : Task α) (k : α → Task β) (l : β → Task γ) :
    t >>= k >>= l = t >>= fun a => k a >>= l := by
  change (t.bind k).bind l = t.bind fun a => (k a).bind l
  induction t with
  | done a => rfl
  | fail f => rfl
  | send call next ih => exact congrArg (send call) (funext ih)
  | look next ih => exact congrArg look (funext ih)
  | learn names next ih => exact congrArg (learn names) ih
  | beginSeed next ih => exact congrArg beginSeed ih
  | note e next ih => exact congrArg (note e) ih

theorem run_bind (t : Task α) (k : α → Task β) (w : World σ) :
    (t >>= k).run answer w =
      match t.run answer w with
      | (.ok a, w) => (k a).run answer w
      | (.error f, w) => (.error f, w) := by
  change (t.bind k).run answer w = _
  induction t generalizing w with
  | done a => rfl
  | fail f => rfl
  | send call next ih =>
    simp only [bind, run]
    cases hanswer : answer call w.remote with
    | mk o remote =>
      cases o with
      | ok r => exact ih r _
      | error f => rfl
  | look next ih => exact ih w.registry w
  | learn names next ih => exact ih _
  | beginSeed next ih => exact ih _
  | note e next ih => exact ih _

theorem run_bind_ok {t : Task α} {k : α → Task β} {w w' : World σ} {a : α}
    (h : t.run answer w = (.ok a, w')) : (t >>= k).run answer w = (k a).run answer w' := by
  rw [run_bind, h]

@[simp] theorem run_pure (a : α) (w : World σ) :
    (Pure.pure a : Task α).run answer w = (.ok a, w) := rfl

@[simp] theorem run_ofOutcome (o : Outcome α) (w : World σ) :
    (ofOutcome o).run answer w = (o, w) := by
  cases o <;> rfl

/-- Running a task only appends to the calls. -/
theorem calls_prefix (t : Task α) (w : World σ) : w.calls <+: (t.run answer w).2.calls := by
  induction t generalizing w with
  | done a => exact List.prefix_rfl
  | fail f => exact List.prefix_rfl
  | send call next ih =>
    simp only [run]
    cases answer call w.remote with
    | mk o remote =>
      cases o with
      | ok r => exact (List.prefix_append w.calls [call]).trans (ih r { w.record call with remote })
      | error f => exact List.prefix_append w.calls [call]
  | look next ih => exact ih w.registry w
  | learn names next ih => exact ih (w.learn names)
  | beginSeed next ih =>
    have h := ih w.beginSeed
    rwa [World.calls_beginSeed] at h
  | note e next ih => exact ih (w.note e)

/-- A task without calls, in every world. -/
def Quiet (answer : Executor σ) (t : Task α) : Prop :=
  ∀ w, (t.run answer w).2.calls = w.calls

namespace Quiet

theorem pure (a : α) : Quiet answer (Pure.pure a : Task α) := fun _ => rfl

theorem bind {t : Task α} {k : α → Task β} (ht : Quiet answer t)
    (hk : ∀ a, Quiet answer (k a)) : Quiet answer (t >>= k) := by
  intro w
  have hw := ht w
  rw [run_bind]
  split
  · next a w' heq =>
    rw [hk a w']
    rwa [heq] at hw
  · next f w' heq =>
    rwa [heq] at hw

end Quiet

end Task

end SqlBridge
