import InstanceBroker.Broker.Settle
import InstanceBroker.Service.Simulated
import InstanceBroker.Service.Scripted

namespace InstanceBroker.Session

inductive Step
  | request (request : Request)
  | advance (millis : Nat)
  | shutdown
  | run
  | queued
  | dropDispatcher
  | dropApi
  | dropCall (step : Nat)
  | release (gate : String)
  | has (name : String)
deriving DecidableEq

inductive Result
  | nothing
  | response (response : Response)
  | pending
  | noApi
  | flag (value : Bool)
  | count (value : Nat)
  | presence (contains running : Bool)
deriving DecidableEq, Repr

structure Report where
  result : Result
  /-- The requests of earlier steps that were answered, by step. -/
  resolved : List (Nat × Response) := []
  notes : List (TransactionId × Scripted.Note) := []
  dispatcherStopped : Bool := false
deriving DecidableEq, Repr

/-- A service and what a session does to its world and sees of it. -/
structure Backend (World Task : Type) where
  service : Service World Task
  release : String → World → World := fun _ world => world
  presence : String → World → Bool × Bool := fun _ _ => (false, false)
  notes : World → List (TransactionId × Scripted.Note) := fun _ => []

def simulated (plan : Simulated.Plan) : Backend Catalogue Simulated.Phase where
  service := plan.service
  presence name world := (world.contains name, world.isRunning name)

def scripted (scripts : Scripted.Scripts) : Backend Scripted.World Scripted.Phase where
  service := scripts.service
  release gate world := world.release gate
  notes := (·.notes)

structure State (World Task : Type) where
  broker : Broker World Task
  manual : Bool
  requested : List Nat := []
  reported : Nat := 0

variable {World Task : Type}

def State.begin (backend : Backend World Task) (broker : Broker World Task) (manual : Bool) :
    State World Task :=
  let broker := if manual then broker else broker.startDispatcher
  { broker := (broker.settle backend.service).1, manual }

def reactAll (service : Service World Task) (broker : Broker World Task) :
    List Input → Broker.Step World Task
  | [] => (broker, [])
  | input :: rest =>
    let (broker, events) := broker.react service input
    let (broker, later) := reactAll service broker rest
    (broker, events ++ later)

def State.pendingCall? (state : State World Task) (step : Nat) : Option CallId :=
  (state.requested.idxOf? step).filter fun call =>
    (state.broker.calls[call]?).any (·.isPending)

def State.inputs (state : State World Task) : Step → List Input
  | .request request => [.request request]
  | .advance millis => List.replicate millis .tick
  | .shutdown => [.shutdown]
  | .run => if state.manual then [.startDispatcher] else []
  | .dropDispatcher => if state.manual then [.dropDispatcher] else []
  | .dropApi => [.close]
  | .dropCall step => (state.pendingCall? step).toList.map .abandon
  | .queued | .release _ | .has _ => []

def responses (requested : List Nat) (events : List Event) : List (Nat × Response) :=
  let answered := events.filterMap fun
    | .answered call outcome => requested[call]?.map (·, .ofOutcome outcome)
    | _ => none
  answered.mergeSort (·.1 ≤ ·.1)

def State.result (backend : Backend World Task) (state : State World Task)
    (settled : Broker World Task) (responses : List (Nat × Response)) (index : Nat) :
    Step → Result
  | .request _ =>
    if !state.broker.reachable then .noApi
    else match responses.lookup index with
      | some response => .response response
      | none => .pending
  | .shutdown => .flag settled.shutdown
  | .queued =>
    if settled.dispatcher = .idle then .count settled.queue.length else .nothing
  | .dropCall step => .flag (state.pendingCall? step).isSome
  | .has name =>
    let (contains, running) := backend.presence name settled.world
    .presence contains running
  | .advance _ | .run | .dropDispatcher | .dropApi | .release _ => .nothing

/-- The broker as a step finds it: the step may have opened a gate. -/
def State.prepared (backend : Backend World Task) (state : State World Task) :
    Step → Broker World Task
  | .release gate => { state.broker with world := backend.release gate state.broker.world }
  | _ => state.broker

def State.conclude (backend : Backend World Task) (state : State World Task) (index : Nat)
    (step : Step) (broker : Broker World Task) (events : List Event) :
    State World Task × Report :=
  let requested := match step with
    | .request _ => if state.broker.reachable then state.requested ++ [index] else state.requested
    | _ => state.requested
  let responded := responses requested events
  let notes := (backend.notes broker.world).drop state.reported
  let report :=
    { result := state.result backend broker responded index step
      resolved := responded.filter (·.1 ≠ index)
      notes := notes.mergeSort (·.1 ≤ ·.1)
      dispatcherStopped := state.manual && events.any fun
        | .stopped _ => true
        | _ => false }
  ({ state with broker, requested, reported := state.reported + notes.length }, report)

def State.step (backend : Backend World Task) (state : State World Task) (index : Nat)
    (step : Step) : State World Task × Report :=
  let (broker, first) := (state.prepared backend step).settle backend.service
  let (broker, later) := reactAll backend.service broker (state.inputs step)
  state.conclude backend index step broker (first ++ later)

def State.play (backend : Backend World Task) (state : State World Task) (index : Nat) :
    List Step → List Report
  | [] => []
  | step :: rest =>
    let (state, report) := state.step backend index step
    report :: state.play backend (index + 1) rest

def play (backend : Backend World Task) (config : Config) (origin : Timestamp) (world : World)
    (manual : Bool) (thrownAway : List TransactionId) (steps : List Step) :
    Except Fault (List Report) :=
  match config.validate with
  | .error e => .error (.config e)
  | .ok config =>
    let broker : Broker World Task := { Broker.create config origin world with thrownAway }
    .ok ((State.begin backend broker manual).play backend 0 steps)

end InstanceBroker.Session
