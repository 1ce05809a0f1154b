import SqlBridge.Proofs.Adapter.Statements
import SqlBridge.Proofs.Registry.Calls
import SqlBridge.Proofs.Task.Run

/-!
The statements of an operation. A task conforms to a list of statements when it ensures the table of
its mapper before the first of them, sends them in order as they are rendered, and sends nothing
else. It may fail at any point, and it may ensure the table repeatedly, as many updates do.
-/

namespace SqlBridge.Adapter

open Sql

/-- A task that conforms to a list of statements. The flags tell whether the table of its mapper has
been ensured before and after it. -/
inductive Conforms (owner : Outcome Schema.Mapper) {α : Type} :
    Bool → Task α → List (Outcome Statement) → Bool → Prop
  | done (sure : Bool) (a : α) : Conforms owner sure (.done a) [] sure
  | fail (sure sure' : Bool) (f : Failure) (statements : List (Outcome Statement)) :
    Conforms owner sure (.fail f) statements sure'
  | note (e : Log.Entry) {sure sure' : Bool} {next : Task α}
    {statements : List (Outcome Statement)} (h : Conforms owner sure next statements sure') :
    Conforms owner sure (.note e next) statements sure'
  | beginSeed {sure sure' : Bool} {next : Task α} {statements : List (Outcome Statement)}
    (h : Conforms owner sure next statements sure') :
    Conforms owner sure (.beginSeed next) statements sure'
  | ensure {m : Schema.Mapper} (howner : owner = .ok m) {sure sure' : Bool}
    {k : Unit → Task α} {statements : List (Outcome Statement)}
    (h : Conforms owner true (k ()) statements sure') :
    Conforms owner sure (Registry.ensureMapper m >>= k) statements sure'
  | send {s : Statement} {f : Fragment Value} (hrender : s.render = .ok f) {sure' : Bool}
    {next : Remote.QueryResult → Task α} {statements : List (Outcome Statement)}
    (h : ∀ r, Conforms owner true (next r) statements sure') :
    Conforms owner true (.send ⟨f.text, f.params⟩ next) (.ok s :: statements) sure'

namespace Conforms

variable {α β : Type} {owner : Outcome Schema.Mapper} {sure sure' sure'' : Bool}
  {statements more : List (Outcome Statement)} {source : MapperSource}

theorem bind {t : Task α} {k : α → Task β} (h : Conforms owner sure t statements sure')
    (hk : ∀ a, Conforms owner sure' (k a) more sure'') :
    Conforms owner sure (t >>= k) (statements ++ more) sure'' := by
  induction h with
  | done sure a => exact hk a
  | fail sure sure' f statements => exact .fail _ _ f _
  | note e _ ih => exact .note e (ih hk)
  | beginSeed _ ih => exact .beginSeed (ih hk)
  | @ensure m howner sure sure' first statements _ ih =>
    have hassoc : (Registry.ensureMapper m >>= first) >>= k =
        Registry.ensureMapper m >>= fun u => first u >>= k := Task.bind_assoc _ _ _
    rw [hassoc]
    exact .ensure howner (ih hk)
  | send hrender _ ih => exact .send hrender fun r => ih r hk

/-- After the last statement only log records follow. -/
theorem last {t : Task α} {k : α → Task β} (h : Conforms owner sure t statements sure')
    (hk : ∀ a, Conforms owner sure' (k a) [] sure'') :
    Conforms owner sure (t >>= k) statements sure'' := by
  have hbound := h.bind hk
  rwa [List.append_nil] at hbound

theorem ofOutcome {o : Outcome α} {k : α → Task β}
    (hk : ∀ a, o = .ok a → Conforms owner sure (k a) statements sure') :
    Conforms owner sure (Task.ofOutcome o >>= k) statements sure' := by
  cases o with
  | ok a => exact hk a rfl
  | error f => exact .fail _ _ f _

theorem debug {enabled : Bool} {message : String} {fields : Fields Value} {k : Unit → Task α}
    (hk : Conforms owner sure (k ()) statements sure') :
    Conforms owner sure (Adapter.debug enabled message fields >>= k) statements sure' := by
  cases enabled with
  | true => exact .note _ hk
  | false => exact hk

theorem prepare (hsource : source.resolve = owner) {k : Schema.Mapper → Task α}
    (hk : ∀ m, owner = .ok m → Conforms owner true (k m) statements sure') :
    Conforms owner sure (Adapter.prepare source >>= k) statements sure' := by
  change Conforms owner sure (.beginSeed ((Task.ofOutcome source.resolve >>= fun m =>
    Registry.ensureMapper m >>= fun _ => pure m) >>= k)) statements sure'
  rw [hsource, Task.bind_assoc]
  refine .beginSeed (ofOutcome fun m hm => ?_)
  rw [Task.bind_assoc]
  exact .ensure hm (hk m hm)

/-- An operation starts by ensuring its table and logging its arguments. -/
theorem opening (hsource : source.resolve = owner) (dbg : Bool) (message : String)
    {fields : Schema.Mapper → Fields Value} {k : Schema.Mapper → Task α}
    (hk : ∀ m, owner = .ok m → Conforms owner true (k m) statements sure') :
    Conforms owner sure
      (Adapter.prepare source >>= fun m => Adapter.debug dbg message (fields m) >>= fun _ => k m)
      statements sure' :=
  prepare hsource fun m hm => debug (hk m hm)

theorem execute {statement : Outcome Statement} {k : Remote.QueryResult → Task α}
    (hk : ∀ r, Conforms owner true (k r) statements sure') :
    Conforms owner true (Adapter.execute statement >>= k) (statement :: statements) sure' := by
  unfold Adapter.execute
  rw [Task.bind_assoc]
  refine ofOutcome fun f hf => ?_
  obtain ⟨s, rfl, hrender⟩ := Outcome.bind_eq_ok_iff.mp hf
  exact .send hrender hk

/-- A single statement that depends on a query. -/
theorem queried {q : Value} {statement : Criteria → Outcome Statement}
    {k : Remote.QueryResult → Task α} (hk : ∀ r, Conforms owner true (k r) [] true) :
    Conforms owner true (compiled q >>= fun c => Adapter.execute (statement c) >>= k)
      [Criteria.empty.compile q >>= statement] true := by
  refine ofOutcome fun c hc => ?_
  rw [hc, Outcome.ok_bind]
  exact execute hk

theorem find (hsource : source.resolve = owner) (dbg : Bool) (id : Value) :
    Conforms owner sure (Adapter.find dbg source id)
      (Operation.statementsOf owner (.find id)) true := by
  refine opening hsource dbg "_find" fun m hm => ?_
  subst hm
  exact execute fun r => debug (.done true _)

theorem count (hsource : source.resolve = owner) (dbg : Bool) (query : Value) :
    Conforms owner sure (Adapter.count dbg source query)
      (Operation.statementsOf owner (.count query)) true := by
  refine opening hsource dbg "_count" fun m hm => ?_
  subst hm
  exact queried fun r => debug (.done true _)

theorem findAll (hsource : source.resolve = owner) (dbg : Bool) (query : Value) :
    Conforms owner sure (Adapter.findAll dbg source query)
      (Operation.statementsOf owner (.findAll query)) true := by
  refine opening hsource dbg "_find_all" fun m hm => ?_
  subst hm
  exact queried fun r => debug (.done true _)

theorem destroyAll (hsource : source.resolve = owner) (dbg : Bool) (query : Value) :
    Conforms owner sure (Adapter.destroyAll dbg source query)
      (Operation.statementsOf owner (.destroyAll query)) true := by
  refine opening hsource dbg "_destroy_all" fun m hm => ?_
  subst hm
  exact queried fun r => debug (.done true _)

theorem sum (hsource : source.resolve = owner) (dbg : Bool) (field query : Value) :
    Conforms owner sure (Adapter.sum dbg source field query)
      (Operation.statementsOf owner (.sum field query)) true := by
  refine opening hsource dbg "_sum" fun m hm => ?_
  subst hm
  exact queried fun r => debug (.done true _)

theorem destroy (hsource : source.resolve = owner) (dbg : Bool) (id : Value) :
    Conforms owner sure (Adapter.destroy dbg source id)
      (Operation.statementsOf owner (.destroy id)) true := by
  refine opening hsource dbg "_destroy" fun m hm => ?_
  subst hm
  exact execute fun r => ofOutcome fun deleted _ => debug (.done true _)

theorem create (hsource : source.resolve = owner) (dbg : Bool) (props : Value) :
    Conforms owner sure (Adapter.create dbg source props)
      (Operation.statementsOf owner (.create props)) true := by
  refine opening hsource dbg "_create" fun m hm => ?_
  subst hm
  refine ofOutcome fun record hrecord => ?_
  rw [Operation.statementsOf, Operation.statements, hrecord, Outcome.ok_bind]
  exact execute fun r => debug (.done true _)

theorem createMany (hsource : source.resolve = owner) (dbg : Bool) (rows : Value) :
    Conforms owner sure (Adapter.createMany dbg source rows)
      (Operation.statementsOf owner (.createMany rows)) true := by
  refine prepare hsource fun m hm => ?_
  subst hm
  refine ofOutcome fun n hn => debug ?_
  simp only [Operation.statementsOf, Operation.statements]
  by_cases hrows : rows.truthy = true
  · rw [if_pos hrows, if_pos hrows, hn, Outcome.ok_bind]
    refine ofOutcome fun x hx => ?_
    rw [hx, Outcome.ok_bind]
    exact execute fun r => debug (.done true _)
  · rw [if_neg hrows, if_neg hrows]
    exact .done true _

/-- An empty change is refused before any call. -/
theorem requireChanges {props : Value} {k : Unit → Task α}
    (hk : props.truthy = true → Conforms owner sure (k ()) statements sure') :
    Conforms owner sure (Adapter.requireChanges source props >>= k) statements sure' := by
  unfold Adapter.requireChanges
  by_cases hprops : props.truthy = true
  · rw [if_pos hprops]
    exact hk hprops
  · rw [if_neg hprops, Task.bind_assoc]
    exact ofOutcome fun m _ => .fail _ _ _ _

theorem update (hsource : source.resolve = owner) (dbg : Bool) (id props : Value) :
    Conforms owner sure (Adapter.update dbg source id props)
      (Operation.statementsOf owner (.update id props)) true := by
  refine requireChanges fun hprops => ?_
  refine opening hsource dbg "_update" fun m hm => ?_
  subst hm
  change Conforms _ _ _ (changeStatements m id props) _
  rw [changeStatements, if_pos hprops]
  have hready : (MapperSource.ready m).resolve = .ok m := rfl
  exact execute fun r => (find hready dbg id).last fun record => ofOutcome fun updated _ =>
    debug (.done true _)

theorem updateAll (hsource : source.resolve = owner) (dbg : Bool) (props query : Value) :
    Conforms owner sure (Adapter.updateAll dbg source props query)
      (Operation.statementsOf owner (.updateAll props query)) true := by
  refine requireChanges fun hprops => ?_
  refine opening hsource dbg "_update_all" fun m hm => ?_
  subst hm
  rw [Operation.statementsOf, Operation.statements, if_pos hprops]
  exact execute fun r => debug (.done true _)

/-- The updates of a list; the first of them ensures the table. -/
theorem updateEach (dbg : Bool) (m : Schema.Mapper) (records : List Value) :
    Conforms (.ok m) sure (Adapter.updateEach dbg m records)
      (records.flatMap (recordStatements m)) (sure || !records.isEmpty) := by
  induction records generalizing sure with
  | nil =>
    rw [List.isEmpty_nil, Bool.not_true, Bool.or_false]
    exact .done sure []
  | cons record rest ih =>
    rw [List.flatMap_cons, List.isEmpty_cons, Bool.not_false, Bool.or_true]
    refine ofOutcome fun fields hfields => ?_
    have hrecord : recordStatements m record =
        changeStatements m (Value.field fields m.idAttribute) record := by
      rw [recordStatements, hfields]
    rw [hrecord]
    have hready : (MapperSource.ready m).resolve = .ok m := rfl
    have hrest : Conforms (.ok m) true (Adapter.updateEach dbg m rest)
        (rest.flatMap (recordStatements m)) (true || !rest.isEmpty) := ih
    rw [Bool.true_or] at hrest
    exact (update hready dbg _ record).bind fun reply => hrest.last fun replies => .done true _

theorem updateMany (hsource : source.resolve = owner) (dbg : Bool) (records : Value) :
    Conforms owner false (Adapter.updateMany dbg source records)
      (Operation.statementsOf owner (.updateMany records))
      (!(records.members?.getD []).isEmpty) := by
  unfold Adapter.updateMany
  rw [hsource]
  refine ofOutcome fun m hm => ?_
  subst hm
  refine ofOutcome fun n _ => debug ?_
  have heach : Conforms (.ok m) false (Adapter.updateEach dbg m (records.members?.getD []))
      ((records.members?.getD []).flatMap (recordStatements m))
      (false || !(records.members?.getD []).isEmpty) := updateEach dbg m _
  rw [Bool.false_or] at heach
  exact heach.last fun replies => debug (.done _ _)

end Conforms

/-- Every operation conforms to its statements. -/
theorem exists_conforms_task (dbg : Bool) (source : MapperSource) (o : Operation) :
    ∃ sure, Conforms source.resolve false (o.task dbg source)
      (o.statementsOf source.resolve) sure := by
  cases o with
  | count query => exact ⟨_, .count rfl dbg query⟩
  | create props => exact ⟨_, .create rfl dbg props⟩
  | createMany rows => exact ⟨_, .createMany rfl dbg rows⟩
  | find id => exact ⟨_, .find rfl dbg id⟩
  | findAll query => exact ⟨_, .findAll rfl dbg query⟩
  | update id props => exact ⟨_, .update rfl dbg id props⟩
  | updateAll props query => exact ⟨_, .updateAll rfl dbg props query⟩
  | updateMany records => exact ⟨_, .updateMany rfl dbg records⟩
  | destroy id => exact ⟨_, .destroy rfl dbg id⟩
  | destroyAll query => exact ⟨_, .destroyAll rfl dbg query⟩
  | sum field query => exact ⟨_, .sum rfl dbg field query⟩

end SqlBridge.Adapter
