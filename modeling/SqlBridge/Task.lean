import SqlBridge.Failure
import SqlBridge.Log.Entry
import SqlBridge.Remote.Envelope
import SqlBridge.TableSet

/-!
Tasks: computations over remote calls, the registry of tables and the log. An executor answers the
calls. A call that fails ends its task with the same failure.
-/

namespace SqlBridge

/-- A call: the text of a statement with the parameters of its placeholders. -/
structure Call where
  sql : String
  params : List Value
deriving Inhabited

/-- The tables known to exist, and whether unknown ones are provisioned. -/
structure Registry where
  known : TableSet
  autocreate : Bool

/-- The state of the background reading of the catalog. A reading whose cancellation was requested
is pending until its turn. -/
inductive Seed where
  | absent
  | pending
  | cancelling
  | done
  | failed (f : Failure)
  | cancelled

/-- The state after a reading has run. A cancellation raised by the remote side cancels it. -/
def Seed.ended : Outcome Nat → Seed
  | .ok _ => .done
  | .error .cancelled => .cancelled
  | .error f => .failed f

inductive Task (α : Type) where
  | done (a : α)
  | fail (f : Failure)
  | send (call : Call) (next : Remote.QueryResult → Task α)
  | look (next : Registry → Task α)
  | learn (names : List Value) (next : Task α)
  | beginSeed (next : Task α)
  | note (e : Log.Entry) (next : Task α)

namespace Task

def bind {α β : Type} (t : Task α) (k : α → Task β) : Task β :=
  match t with
  | done a => k a
  | fail f => fail f
  | send call next => send call fun r => (next r).bind k
  | look next => look fun registry => (next registry).bind k
  | learn names next => learn names (next.bind k)
  | beginSeed next => beginSeed (next.bind k)
  | note e next => note e (next.bind k)

instance : Monad Task where
  pure := done
  bind := bind

def ofOutcome {α : Type} : Outcome α → Task α
  | .ok a => done a
  | .error f => fail f

def request (call : Call) : Task Remote.QueryResult := send call done

def registry : Task Registry := look done

def remember (names : List Value) : Task Unit := learn names (done ())

def startSeed : Task Unit := beginSeed (done ())

def log (e : Log.Entry) : Task Unit := note e (done ())

end Task

/-- The answer to a call in a state of the remote side, with the next state. -/
abbrev Executor (σ : Type) := Call → σ → Outcome Remote.QueryResult × σ

/-- The state in which tasks run. -/
structure World (σ : Type) where
  remote : σ
  registry : Registry
  seed : Seed
  calls : List Call
  log : List Log.Entry

namespace World

variable {σ : Type}

def record (w : World σ) (call : Call) : World σ := { w with calls := w.calls ++ [call] }

def learn (w : World σ) (names : List Value) : World σ :=
  { w with registry := { w.registry with known := w.registry.known.insertAll names } }

def beginSeed (w : World σ) : World σ :=
  match w.seed with
  | .absent => { w with seed := .pending }
  | _ => w

def note (w : World σ) (e : Log.Entry) : World σ := { w with log := w.log ++ [e] }

end World

namespace Task

variable {σ α : Type}

/-- Runs a task to completion. -/
def run (answer : Executor σ) (t : Task α) (w : World σ) : Outcome α × World σ :=
  match t with
  | done a => (.ok a, w)
  | fail f => (.error f, w)
  | send call next =>
    match answer call w.remote with
    | (.ok r, remote) => (next r).run answer { w.record call with remote }
    | (.error f, remote) => (.error f, { w.record call with remote })
  | look next => (next w.registry).run answer w
  | learn names next => next.run answer (w.learn names)
  | beginSeed next => next.run answer w.beginSeed
  | note e next => next.run answer (w.note e)

end Task

/-- A task that has ended, or that is suspended at a call. -/
inductive Suspended (α : Type) where
  | ended (o : Outcome α)
  | waiting (call : Call) (next : Remote.QueryResult → Task α)

namespace Task

variable {σ α : Type}

/-- Runs a task up to its first call, which is sent. -/
def start (t : Task α) (w : World σ) : Suspended α × World σ :=
  match t with
  | done a => (.ended (.ok a), w)
  | fail f => (.ended (.error f), w)
  | send call next => (.waiting call next, w.record call)
  | look next => (next w.registry).start w
  | learn names next => next.start (w.learn names)
  | beginSeed next => next.start w.beginSeed
  | note e next => next.start (w.note e)

end Task

/-- Answers the pending call of a task and runs the task to completion. -/
def Suspended.resume {σ α : Type} (answer : Executor σ) (s : Suspended α) (w : World σ) :
    Outcome α × World σ :=
  match s with
  | .ended o => (o, w)
  | .waiting call next =>
    match answer call w.remote with
    | (.ok r, remote) => (next r).run answer { w with remote }
    | (.error f, remote) => (.error f, { w with remote })

end SqlBridge
