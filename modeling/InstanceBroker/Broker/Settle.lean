import InstanceBroker.Broker.Move

namespace InstanceBroker

inductive Input
  | request (request : Request)
  | tick
  | shutdown
  | startDispatcher
  | dropDispatcher
  | close
  | abandon (call : CallId)
deriving DecidableEq

namespace Broker

variable {World Task : Type}

def create (config : Config) (origin : Timestamp) (world : World) : Broker World Task :=
  { config, origin, world, dispatcher := .idle }

/-- The running dispatcher looks for expired transactions a whole interval after its start. -/
def startDispatcher (broker : Broker World Task) : Broker World Task :=
  match broker.dispatcher with
  | .idle => { broker with dispatcher := .running (broker.sweepAfter broker.clock) }
  | _ => broker

def dropDispatcher (broker : Broker World Task) : Broker World Task :=
  match broker.dispatcher with
  | .idle => { broker with dispatcher := .dropped }
  | _ => broker

def abandon (broker : Broker World Task) (call : CallId) : Broker World Task :=
  { broker with
    calls := broker.calls.modify call fun call =>
      if call.isPending then { call with phase := .abandoned } else call }

def receive (broker : Broker World Task) : Input → Broker World Task
  | .request request =>
    if broker.reachable then { broker with calls := broker.calls ++ [{ request }] } else broker
  | .tick => { broker with clock := broker.clock + Duration.nanosPerMilli }
  | .shutdown => { broker with shutdown := true }
  | .startDispatcher => broker.startDispatcher
  | .dropDispatcher => broker.dropDispatcher
  | .close => { broker with reachable := false }
  | .abandon call => broker.abandon call

def participants (broker : Broker World Task) : List Move :=
  .dispatcher :: ((List.range broker.runs.length).map fun n => .run (n + 1)) ++
    (List.range broker.calls.length).map .call

def next? (service : Service World Task) (broker : Broker World Task) : Option (Step World Task) :=
  broker.participants.findSome? (broker.fire? service)

/-- All participants are blocked. -/
def Settled (service : Service World Task) (broker : Broker World Task) : Prop :=
  ∀ move, broker.fire? service move = none

def actionEffort (service : Service World Task) : Action → Nat
  | .start operation _ => 2 * service.cost operation + 3
  | _ => 1

def callEffort (service : Service World Task) (call : Call) : Nat :=
  match call.phase with
  | .submitting => 6 + actionEffort service (call.request.action 0)
  | .awaiting => 5
  | .told _ => 4
  | .reading => 3
  | .completing _ => 2
  | .answered _ | .abandoned => 0

def runEffort (service : Service World Task) (run : Run Task) : Nat :=
  match run.phase with
  | .working task => 2 * service.weight task + 2
  | .reporting _ task => 2 * service.weight task + 3
  | .delivering _ => 1
  | .ended => 0

def dispatcherEffort (broker : Broker World Task) : Nat :=
  match broker.dispatcher, broker.config.transactionTtl with
  | .running due, some _ =>
    1 + (broker.clock + broker.config.sweepInterval.nanos - due) / broker.config.sweepInterval.nanos
  | .running _, none => 1
  | _, _ => 0

def total {α : Type} (effort : α → Nat) (items : List α) : Nat :=
  items.foldr (fun item sum => effort item + sum) 0

/-- A bound on the moves that can follow one another without an input. -/
def effort (service : Service World Task) (broker : Broker World Task) : Nat :=
  broker.dispatcherEffort + total (actionEffort service) broker.queue +
    total (runEffort service) broker.runs + total (callEffort service) broker.calls

def settleWithin (service : Service World Task) : Nat → Broker World Task → Step World Task
  | 0, broker => (broker, [])
  | moves + 1, broker => match broker.next? service with
    | none => (broker, [])
    | some (broker, events) =>
      let (broker, later) := settleWithin service moves broker
      (broker, events ++ later)

def settle (service : Service World Task) (broker : Broker World Task) : Step World Task :=
  settleWithin service (broker.effort service) broker

def react (service : Service World Task) (broker : Broker World Task) (input : Input) :
    Step World Task :=
  (broker.receive input).settle service

end Broker

end InstanceBroker
