import InstanceBroker.Transaction.Table
import InstanceBroker.Service.Basic

namespace InstanceBroker

abbrev CallId := Nat

/-- What is sent to the dispatcher; `caller` is the call that waits for its reply. -/
inductive Action
  | start (operation : Operation) (caller : CallId)
  | getResult (transaction : TransactionId) (caller : CallId)
  | cancel (transaction : TransactionId)
  | complete (transaction : TransactionId)
  | inspect (caller : CallId)
deriving DecidableEq, Repr

inductive DispatcherReply
  | opened (transaction : TransactionId)
  | granted
  | refused (fault : Fault)
  | listing (infos : List TransactionInfo)
deriving DecidableEq, Repr

inductive Call.Phase
  | submitting
  | awaiting
  | told (reply : DispatcherReply)
  | reading
  | completing (outcome : Outcome)
  | answered (outcome : Outcome)
  | abandoned
deriving DecidableEq

structure Call where
  request : Request
  phase : Call.Phase := .submitting
deriving DecidableEq

namespace Call

def isPending (call : Call) : Bool :=
  match call.phase with
  | .answered _ | .abandoned => false
  | _ => true

def holds (call : Call) (id : TransactionId) : Bool :=
  match call.request, call.phase with
  | .collect _ transaction, .told .granted
  | .collect _ transaction, .reading
  | .collect _ transaction, .completing _ => transaction == id
  | _, _ => false

end Call

def Request.action (request : Request) (caller : CallId) : Action :=
  match request with
  | .initiate operation => .start operation caller
  | .collect _ transaction => .getResult transaction caller
  | .cancel transaction => .cancel transaction
  | .listTransactions => .inspect caller

inductive Run.Phase (Task : Type)
  | working (task : Task)
  | reporting (value : ResultValue) (task : Task)
  | delivering (value : ResultValue)
  | ended

/-- An operation being carried out, with the values nobody has read yet. -/
structure Run (Task : Type) where
  operation : Operation
  buffer : List ResultValue := []
  cancelled : Bool := false
  phase : Run.Phase Task

def Run.hasEnded {Task : Type} (run : Run Task) : Bool :=
  match run.phase with
  | .ended => true
  | _ => false

inductive Dispatcher
  | idle
  | running (nextSweep : Nat)
  | ended
  | dropped
deriving DecidableEq, Repr

def Dispatcher.accepts : Dispatcher → Bool
  | .idle | .running _ => true
  | .ended | .dropped => false

structure Broker (World Task : Type) where
  config : Config
  /-- The wall-clock time at which `clock` was zero. -/
  origin : Timestamp
  /-- Runs that are thrown away instead of being carried out. -/
  thrownAway : List TransactionId := []
  clock : Nat := 0
  shutdown : Bool := false
  reachable : Bool := true
  dispatcher : Dispatcher
  queue : List Action := []
  table : Table := {}
  /-- The runs of transactions 1, 2, 3 and so on. -/
  runs : List (Run Task) := []
  calls : List Call := []
  world : World

namespace Broker

variable {World Task : Type}

def run? (broker : Broker World Task) : TransactionId → Option (Run Task)
  | 0 => none
  | n + 1 => broker.runs[n]?

def mapRun (broker : Broker World Task) (id : TransactionId) (change : Run Task → Run Task) :
    Broker World Task :=
  match id with
  | 0 => broker
  | n + 1 => { broker with runs := broker.runs.modify n change }

def setPhase (broker : Broker World Task) (call : CallId) (phase : Call.Phase) :
    Broker World Task :=
  { broker with calls := broker.calls.modify call ({ · with phase }) }

def isCancelled (broker : Broker World Task) (id : TransactionId) : Bool :=
  broker.shutdown || (broker.run? id).any (·.cancelled)

def isWanted (broker : Broker World Task) (id : TransactionId) : Bool :=
  broker.table.isLive id || broker.calls.any (·.holds id)

def capacity (broker : Broker World Task) : Nat := max broker.config.resultBuffer 1

/-- Whether an action may still arrive: the broker is reachable or a call is pending. -/
def hasSenders (broker : Broker World Task) : Bool :=
  broker.reachable || broker.calls.any (·.isPending)

def hasRoom (broker : Broker World Task) : Bool :=
  broker.queue.length < broker.config.actionQueueCapacity

def sweepAfter (broker : Broker World Task) (clock : Nat) : Nat :=
  clock + broker.config.sweepInterval.nanos

end Broker

end InstanceBroker
