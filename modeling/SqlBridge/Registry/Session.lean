import SqlBridge.Registry
import SqlBridge.Remote.Script

/-!
Runs of a registry over a scripted remote side. An action is one step or a gathering, which
interleaves its steps: each is started up to its first call, in order, and then they are resumed in
the same order.
-/

namespace SqlBridge.Registry

open Remote

/-- A step outside gatherings. -/
inductive Step where
  | ask (request : Request)
  | setAutocreate (value : Value)
  | setCatalog (catalog : List Value) (error : Option RemoteError)

def Step.start (step : Step) (w : ScriptedWorld) : Suspended Value × ScriptedWorld :=
  match step with
  | .ask request => request.task.start w
  | .setAutocreate value =>
    (.ended (.ok value), { w with registry := { w.registry with autocreate := value.truthy } })
  | .setCatalog catalog error =>
    (.ended (.ok .null),
      { w with remote := { w.remote with catalog, catalogError := error } })

def Step.run (step : Step) (w : ScriptedWorld) : Outcome Value × ScriptedWorld :=
  let (suspended, w) := step.start w
  suspended.resume Script.answer w

def startAll : List Step → ScriptedWorld → List (Suspended Value) × ScriptedWorld
  | [], w => ([], w)
  | step :: rest, w =>
    let (s, w) := step.start w
    let (more, w) := startAll rest w
    (s :: more, w)

def resumeAll : List (Suspended Value) → ScriptedWorld → List (Outcome Value) × ScriptedWorld
  | [], w => ([], w)
  | s :: rest, w =>
    let (o, w) := s.resume Script.answer w
    let (more, w) := resumeAll rest w
    (o :: more, w)

/-- Starts all steps in order and then resumes them in the same order. -/
def gather (steps : List Step) (w : ScriptedWorld) : List (Outcome Value) × ScriptedWorld :=
  let (suspended, w) := startAll steps w
  resumeAll suspended w

/-- A single step, or gathered steps. -/
inductive Action where
  | alone (step : Step)
  | together (steps : List Step)

inductive Answer where
  | one (o : Outcome Value)
  | many (os : List (Outcome Value))

def Action.run (action : Action) (w : ScriptedWorld) : Answer × ScriptedWorld :=
  match action with
  | .alone step =>
    let (o, w) := step.run w
    (.one o, w)
  | .together steps =>
    let (os, w) := gather steps w
    (.many os, w)

/-- Runs actions one after another, each with its replies; returns every answer with the world after
it. -/
def runAll : List (Action × List Reply) → ScriptedWorld → List (Answer × ScriptedWorld)
  | [], _ => []
  | (action, replies) :: rest, w =>
    let (answer, w) := action.run (w.prepare replies)
    (answer, w) :: runAll rest w

def newWorld (autocreate : Bool) (catalog : List Value) (error : Option RemoteError) :
    ScriptedWorld :=
  ⟨⟨catalog, error, []⟩, ⟨.empty, autocreate⟩, .absent, [], []⟩

end SqlBridge.Registry
