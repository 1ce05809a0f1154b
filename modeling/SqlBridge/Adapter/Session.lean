import SqlBridge.Adapter.Operation
import SqlBridge.Remote.Script

/-!
Sessions of an adapter over any executor: operations, and turns of the background reading of the
catalog. The reading is started once, at the latest by the first operation, and operations do not
wait for it.
-/

namespace SqlBridge.Adapter

open Remote

/-- Options of an adapter: whether debug records are kept, and whether responses carry metadata. -/
structure Options where
  debug : Bool
  raw : Bool

/-- Whether a response carries metadata; a call may override the option. -/
def Options.reports (options : Options) (override : Option Bool) : Bool :=
  override.getD options.raw

variable {σ : Type}

def World.setSeed (w : World σ) (seed : Seed) : World σ := { w with seed }

def seedFailure (f : Failure) : Log.Entry :=
  ⟨logger, Log.warningLevel, "Table cache seeding failed", [("error", .text f.described)]⟩

/-- The log record of an ended reading: its failure, unless it was cancelled. -/
def noteEnd (o : Outcome Nat) (w : World σ) : World σ :=
  match o with
  | .ok _ => w
  | .error .cancelled => w
  | .error f => w.note (seedFailure f)

/-- Runs the background reading and stores its end. -/
def runSeed (answer : Executor σ) (w : World σ) : World σ :=
  let (o, w) := Registry.seed.run answer w
  World.setSeed (noteEnd o w) (.ended o)

/-- A turn of the background reading: it runs, or its cancellation takes effect. -/
def turn (answer : Executor σ) (w : World σ) : World σ :=
  match w.seed with
  | .pending => runSeed answer w
  | .cancelling => World.setSeed w .cancelled
  | _ => w

/-- Waits for the background reading and returns its outcome. -/
def waitSeeded (answer : Executor σ) (w : World σ) : Outcome Unit × World σ :=
  let w := turn answer w.beginSeed
  match w.seed with
  | .failed f => (.error f, w)
  | .cancelled => (.error .cancelled, w)
  | _ => (.ok (), w)

/-- Requests the cancellation of a reading that has not ended. -/
def requestClose (w : World σ) : World σ :=
  match w.seed with
  | .pending => World.setSeed w .cancelling
  | _ => w

/-- The reported state of the background reading. -/
def Seed.label : Seed → String
  | .absent => "none"
  | .pending => "pending"
  | .cancelling => "pending"
  | .done => "done"
  | .failed _ => "failed"
  | .cancelled => "cancelled"

/-- A new adapter. One created inside a running loop starts its reading at once. -/
def newWorld (remote : σ) (autocreate background : Bool) (known : List String) : World σ :=
  ⟨remote, ⟨TableSet.ofTexts known, autocreate⟩, if background then .pending else .absent, [], []⟩

/-- The form of an answer: the reply of the operation, or its response, where the call may override
the option for metadata. -/
inductive View where
  | reply
  | response (report : Option Bool)

/-- A response: the data alone, or with the name of the operation and the metadata. -/
inductive Response where
  | bare (data : Value)
  | reported (operation : String) (data : Value) (metadata : Fields Value)

def Options.respond (options : Options) (report : Option Bool) (o : Operation) (r : Reply) :
    Response :=
  if options.reports report then .reported o.name r.data r.metadata else .bare r.data

/-- New options and a new catalog. -/
structure Change where
  autocreate : Option Bool
  debug : Option Bool
  raw : Option Bool
  catalog : Option (List Value)

/-- A step of a session. The mapper of an operation may be resolved before the operation starts. -/
inductive Step where
  | operate (mapper : Value) (readFirst : Bool) (operation : Operation) (view : View)
  | yield
  | waitSeeded
  | enter
  | close
  | change (c : Change)

inductive Answer where
  | reply (r : Reply)
  | response (r : Response)
  | value (v : Value)

/-- The remote side of an adapter. It answers calls, its catalog may be replaced, and it may be
supplied with data before a step. -/
structure Side (σ ι : Type) where
  answer : Executor σ
  relist : List Value → σ → σ
  supply : ι → σ → σ

/-- A scripted remote side is supplied with the replies of each step. -/
def scripted : Side Script (List Remote.Reply) :=
  ⟨Script.answer, fun catalog s => { s with catalog, catalogError := none },
    fun replies s => { s with replies }⟩

/-- A remote side whose catalog changes by its statements only. -/
def served (answer : Executor σ) : Side σ Unit := ⟨answer, fun _ s => s, fun _ s => s⟩

/-- An adapter over a remote side. -/
structure Session (σ : Type) where
  options : Options
  world : World σ

abbrev ScriptedSession := Session Script

def Change.applyTo (relist : List Value → σ → σ) (c : Change) (s : Session σ) : Session σ :=
  let registry := s.world.registry
  ⟨⟨c.debug.getD s.options.debug, c.raw.getD s.options.raw⟩,
    { s.world with
      registry := { registry with autocreate := c.autocreate.getD registry.autocreate }
      remote := match c.catalog with
        | some rows => relist rows s.world.remote
        | none => s.world.remote }⟩

def mapperSource (mapper : Value) (readFirst : Bool) : Outcome MapperSource :=
  if readFirst then (ofChecked (Schema.Mapper.read mapper)).map .ready
  else .ok (.described mapper)

def View.answer (options : Options) (o : Operation) (r : Reply) : View → Answer
  | .reply => .reply r
  | .response report => .response (options.respond report o r)

variable {ι : Type}

def Step.run (side : Side σ ι) (step : Step) (s : Session σ) : Outcome Answer × Session σ :=
  match step with
  | .operate mapper readFirst operation view =>
    match mapperSource mapper readFirst with
    | .error f => (.error f, s)
    | .ok source =>
      let (o, w) := (operation.task s.options.debug source).run side.answer s.world
      (o.map fun r => view.answer s.options operation r, { s with world := w })
  | .yield => (.ok (.value .null), { s with world := turn side.answer s.world })
  | .waitSeeded =>
    let (o, w) := Adapter.waitSeeded side.answer s.world
    (o.map fun _ => .value .null, { s with world := w })
  | .enter => (.ok (.value (.bool true)), { s with world := s.world.beginSeed })
  | .close => (.ok (.value .null), { s with world := requestClose s.world })
  | .change c => (.ok (.value .null), c.applyTo side.relist s)

/-- Runs steps one after another, each after the supply of the remote side; returns every outcome
with the session after it. -/
def runAll (side : Side σ ι) : List (Step × ι) → Session σ → List (Outcome Answer × Session σ)
  | [], _ => []
  | (step, given) :: rest, s =>
    let (o, s) :=
      step.run side { s with world := s.world.fresh (side.supply given s.world.remote) }
    (o, s) :: runAll side rest s

end SqlBridge.Adapter
