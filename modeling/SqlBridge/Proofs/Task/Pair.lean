import SqlBridge.Proofs.Task.Run

/-!
Relations between two tasks. Tasks are alike when they make the same steps in the same order, up to
the parameters of their calls and their log records, and are alike after every answer. Alike tasks
with the same answers send the same texts and end with the same registry.
-/

namespace SqlBridge

variable {σ α β γ δ : Type}

namespace Task

/-- Tasks that send the same texts and change the registry in the same way. Their results are
related by `R`, or they fail with the same failure. -/
inductive Alike (R : α → β → Prop) : Task α → Task β → Prop
  | done {a : α} {b : β} (h : R a b) : Alike R (done a) (done b)
  | fail (f : Failure) : Alike R (fail f) (fail f)
  | send {call call' : Call} (hsql : call.sql = call'.sql)
    {next : Remote.QueryResult → Task α} {next' : Remote.QueryResult → Task β}
    (h : ∀ r, Alike R (next r) (next' r)) : Alike R (send call next) (send call' next')
  | look {next : Registry → Task α} {next' : Registry → Task β}
    (h : ∀ registry, Alike R (next registry) (next' registry)) : Alike R (look next) (look next')
  | learn (names : List Value) {next : Task α} {next' : Task β} (h : Alike R next next') :
    Alike R (learn names next) (learn names next')
  | beginSeed {next : Task α} {next' : Task β} (h : Alike R next next') :
    Alike R (beginSeed next) (beginSeed next')
  | note (e e' : Log.Entry) {next : Task α} {next' : Task β} (h : Alike R next next') :
    Alike R (note e next) (note e' next')

namespace Alike

variable {R : α → β → Prop} {S : γ → δ → Prop}

theorem refl {R : α → α → Prop} (hR : ∀ a, R a a) (t : Task α) : Alike R t t := by
  induction t with
  | done a => exact .done (hR a)
  | fail f => exact .fail f
  | send call next ih => exact .send rfl ih
  | look next ih => exact .look ih
  | learn names next ih => exact .learn names ih
  | beginSeed next ih => exact .beginSeed ih
  | note e next ih => exact .note e e ih

theorem bind {t : Task α} {t' : Task β} {k : α → Task γ} {k' : β → Task δ}
    (h : Alike R t t') (hk : ∀ a b, R a b → Alike S (k a) (k' b)) :
    Alike S (t >>= k) (t' >>= k') := by
  induction h with
  | done hab => exact hk _ _ hab
  | fail f => exact .fail f
  | send hsql _ ih => exact .send hsql ih
  | look _ ih => exact .look ih
  | learn names _ ih => exact .learn names ih
  | beginSeed _ ih => exact .beginSeed ih
  | note e e' _ ih => exact .note e e' ih

/-- Tasks with the same result are alike if their continuations are. -/
theorem after {t t' : Task α} {k : α → Task γ} {k' : α → Task δ} (h : Alike Eq t t')
    (hk : ∀ a, Alike S (k a) (k' a)) : Alike S (t >>= k) (t' >>= k') := by
  apply h.bind
  rintro a _ rfl
  exact hk a

theorem same (t : Task α) : Alike Eq t t := refl (fun _ => rfl) t

theorem ofOutcome {o : Outcome α} {o' : Outcome β} (h : Outcome.Alike R o o') :
    Alike R (Task.ofOutcome o) (Task.ofOutcome o') := by
  cases h with
  | ok hab => exact .done hab
  | error f => exact .fail f

end Alike

end Task

/-- Worlds with the same registry in which the same texts have been sent. -/
structure World.Alike (w w' : World σ) : Prop where
  remote : w.remote = w'.remote
  registry : w.registry = w'.registry
  texts : w.calls.map Call.sql = w'.calls.map Call.sql

/-- Equal answers to calls with equal texts; the answers may depend on earlier ones, but not on the
parameters. -/
def SameAnswers (answer answer' : Executor σ) : Prop :=
  ∀ call call' remote, call.sql = call'.sql → answer call remote = answer' call' remote

/-- A call preserves the relation of worlds. -/
theorem World.Alike.record {w w' : World σ} (h : w.Alike w') {call call' : Call}
    (hsql : call.sql = call'.sql) (remote : σ) :
    World.Alike { w.record call with remote } { w'.record call' with remote } := by
  refine ⟨rfl, h.registry, ?_⟩
  simp [h.texts, hsql]

/-- Alike tasks preserve the relation of worlds. -/
theorem Task.Alike.run {R : α → β → Prop} {answer answer' : Executor σ}
    (hanswers : SameAnswers answer answer') {t : Task α} {t' : Task β} (h : Alike R t t')
    {w w' : World σ} (hw : w.Alike w') :
    Outcome.Alike R (t.run answer w).1 (t'.run answer' w').1 ∧
      (t.run answer w).2.Alike (t'.run answer' w').2 := by
  induction h generalizing w w' with
  | done hab => exact ⟨.ok hab, hw⟩
  | fail f => exact ⟨.error f, hw⟩
  | @send call call' hsql next next' _ ih =>
    have hanswer : answer call w.remote = answer' call' w'.remote := by
      rw [hanswers call call' w.remote hsql, hw.remote]
    simp only [Task.run, hanswer]
    cases answer' call' w'.remote with
    | mk o remote =>
      cases o with
      | ok r => exact ih r (hw.record hsql remote)
      | error f => exact ⟨.error f, hw.record hsql remote⟩
  | look _ ih =>
    simp only [Task.run, hw.registry]
    exact ih w'.registry hw
  | learn names _ ih =>
    refine ih ⟨hw.remote, ?_, hw.texts⟩
    simp only [World.learn, hw.registry]
  | beginSeed _ ih => exact ih ⟨by simpa using hw.remote, by simpa using hw.registry,
      by simpa using hw.texts⟩
  | note e e' _ ih => exact ih ⟨hw.remote, hw.registry, hw.texts⟩

end SqlBridge
