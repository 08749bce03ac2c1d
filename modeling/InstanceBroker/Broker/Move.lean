import InstanceBroker.Broker.State

namespace InstanceBroker

inductive Event
  | accepted (call : CallId) (action : Action)
  | handled (action : Action)
  | opened (transaction : TransactionId) (kind : Operation.Kind)
  /-- Nobody was left to learn of the transaction. -/
  | discarded (transaction : TransactionId)
  | cancelled (transaction : TransactionId)
  | completed (transaction : TransactionId)
  | swept (transaction : TransactionId)
  | stopped (transactions : List TransactionId)
  | wrote (transaction : TransactionId) (value : ResultValue)
  | took (call : CallId) (transaction : TransactionId) (value : ResultValue)
  | answered (call : CallId) (outcome : Outcome)
  | ended (transaction : TransactionId)
deriving DecidableEq

inductive Move
  | dispatcher
  | run (transaction : TransactionId)
  | call (call : CallId)
deriving DecidableEq, Repr

structure Verdict where
  outcome : Outcome
  releases : Bool

def Operation.Kind.answer? : Operation.Kind → Payload → Option Answer
  | .create, .created result => some (.created result)
  | .start, .done | .stop, .done | .quit, .done | .delete, .done => some .done
  | .status, .details details => some (.details details)
  | .listInstances, .instances names => some (.instances names)
  | _, _ => none

/-- Progress is an answer to those who read a creation and surprises all others. -/
def Operation.Kind.judge (kind : Operation.Kind) (id : TransactionId) : ResultValue → Verdict
  | .progress result =>
    if kind = .create then ⟨.ok (.created result), false⟩
    else ⟨.error (.unexpectedResult id kind.expectation), true⟩
  | .final payload => match kind.answer? payload with
    | some answer => ⟨.ok answer, true⟩
    | none => ⟨.error (.unexpectedResult id kind.expectation), true⟩
  | .failed error => ⟨.error (.operation error), true⟩

namespace Broker

variable {World Task : Type}

abbrev Step (World Task : Type) := Broker World Task × List Event

def answer (broker : Broker World Task) (call : CallId) (outcome : Outcome) : Step World Task :=
  (broker.setPhase call (.answered outcome), [.answered call outcome])

def tell (broker : Broker World Task) (call : CallId) (reply : DispatcherReply) :
    Broker World Task × Bool :=
  match broker.calls[call]? with
  | some { phase := .awaiting, .. } => (broker.setPhase call (.told reply), true)
  | _ => (broker, false)

def signal (broker : Broker World Task) (id : TransactionId) : Broker World Task :=
  broker.mapRun id ({ · with cancelled := true })

def discard (broker : Broker World Task) (id : TransactionId) : Broker World Task :=
  { broker.signal id with table := broker.table.erase id }

/-- Opens a transaction and launches its operation. A caller that has gone away will never ask for
the result, so the transaction is discarded at once. -/
def launch (service : Service World Task) (broker : Broker World Task) (operation : Operation)
    (caller : CallId) : Step World Task :=
  let id := broker.table.nextId
  let createdAt := broker.origin.after ⟨broker.clock⟩
  let phase : Run.Phase Task :=
    if broker.thrownAway.contains id then .ended else .working (service.enter id operation)
  let launched : Broker World Task := { broker with
    table := broker.table.allocate operation.kind createdAt broker.clock
    runs := broker.runs ++ [{ operation, phase }] }
  match launched.tell caller (.opened id) with
  | (told, true) => (told, [.opened id operation.kind])
  | (_, false) => (launched.discard id, [.opened id operation.kind, .discarded id])

def handle (service : Service World Task) (broker : Broker World Task) :
    Action → Step World Task
  | .start operation caller => broker.launch service operation caller
  | .getResult id caller =>
    match broker.table.access id with
    | .ok table => (({ broker with table }.tell caller .granted).1, [])
    | .error fault => ((broker.tell caller (.refused fault)).1, [])
  | .cancel id =>
    if broker.table.isLive id then
      ({ broker.signal id with table := broker.table.cancel id }, [.cancelled id])
    else (broker, [])
  | .complete id =>
    if broker.table.isLive id then
      ({ broker with table := broker.table.erase id }, [.completed id])
    else (broker, [])
  | .inspect caller => ((broker.tell caller (.listing broker.table.snapshot)).1, [])

def stop (broker : Broker World Task) : Step World Task :=
  let ids := broker.table.ids
  ({ ids.foldl signal broker with table := broker.table.clear, dispatcher := .ended },
    [.stopped ids])

def sweep (broker : Broker World Task) (ttl : Duration) (due : Nat) : Step World Task :=
  let ids := broker.table.expired ttl broker.clock
  ({ ids.foldl discard broker with dispatcher := .running (broker.sweepAfter due) },
    ids.map .swept)

/-- Shutdown comes first, then the queue, then a sweep that is due. -/
def dispatch? (service : Service World Task) (broker : Broker World Task) :
    Option (Step World Task) :=
  match broker.dispatcher with
  | .running due =>
    if broker.shutdown then some broker.stop
    else match broker.queue with
      | action :: queue =>
        let (broker, events) := { broker with queue }.handle service action
        some (broker, .handled action :: events)
      | [] =>
        if !broker.hasSenders then some broker.stop
        else match broker.config.transactionTtl with
          | some ttl => if due ≤ broker.clock then some (broker.sweep ttl due) else none
          | none => none
  | _ => none

/-- Hands a value to the readers: true once it is in the buffer, false if it is not wanted. -/
def write? (broker : Broker World Task) (id : TransactionId) (run : Run Task)
    (value : ResultValue) : Option (Step World Task × Bool) :=
  if broker.isCancelled id || !broker.isWanted id then some ((broker, []), false)
  else if run.buffer.length < broker.capacity then
    some ((broker.mapRun id fun run => { run with buffer := run.buffer ++ [value] },
      [.wrote id value]), true)
  else none

def setRunPhase (broker : Broker World Task) (id : TransactionId) (phase : Run.Phase Task) :
    Broker World Task :=
  broker.mapRun id ({ · with phase })

def advanceRun? (service : Service World Task) (broker : Broker World Task) (id : TransactionId) :
    Option (Step World Task) := do
  let run ← broker.run? id
  match run.phase with
  | .working task =>
    let context := { id, now := broker.clock, cancelled := broker.isCancelled id }
    match service.step context run.operation broker.world task with
    | .wait => none
    | .proceed world task => some ({ broker with world }.setRunPhase id (.working task), [])
    | .report progress task _ =>
      some (broker.setRunPhase id (.reporting (.ofProgress progress) task), [])
    | .finish world outcome =>
      if broker.isCancelled id then
        some ({ broker with world }.setRunPhase id .ended, [.ended id])
      else
        let value := .ofOutcome run.operation.kind outcome
        some ({ broker with world }.setRunPhase id (.delivering value), [])
  | .reporting value task =>
    let ((broker, events), accepted) ← broker.write? id run value
    some (broker.setRunPhase id (.working (service.resume accepted task)), events)
  | .delivering value =>
    let ((broker, events), _) ← broker.write? id run value
    some (broker.setRunPhase id .ended, events ++ [.ended id])
  | .ended => none

def submit? (broker : Broker World Task) (id : CallId) (request : Request) :
    Option (Step World Task) :=
  if broker.shutdown then some (broker.answer id (.error .cancelled))
  else if !broker.dispatcher.accepts then some (broker.answer id (.error .dispatcherClosed))
  else if broker.hasRoom then
    let action := request.action id
    let queued := { broker with queue := broker.queue ++ [action] }
    match request with
    | .cancel _ =>
      let (broker, events) := queued.answer id (.ok .cancelRequested)
      some (broker, .accepted id action :: events)
    | _ => some (queued.setPhase id .awaiting, [.accepted id action])
  else none

def learn (broker : Broker World Task) (id : CallId) : DispatcherReply → Step World Task
  | .opened transaction => broker.answer id (.ok (.started transaction))
  | .granted => (broker.setPhase id .reading, [])
  | .refused fault => broker.answer id (.error fault)
  | .listing infos => broker.answer id (.ok (.transactions infos))

/-- Takes the next value of a transaction. Cancellation comes before values that are there, and a
run that ended without a value counts as cancelled. -/
def take? (broker : Broker World Task) (id : CallId) (kind : Operation.Kind)
    (transaction : TransactionId) : Option (Step World Task) := do
  let run ← broker.run? transaction
  if broker.shutdown || run.cancelled then return broker.answer id (.error .cancelled)
  match run.buffer with
  | value :: buffer =>
    let taken := broker.mapRun transaction ({ · with buffer })
    let verdict := kind.judge transaction value
    let (broker, events) :=
      if verdict.releases then (taken.setPhase id (.completing verdict.outcome), [])
      else taken.answer id verdict.outcome
    return (broker, .took id transaction value :: events)
  | [] => if run.hasEnded then return broker.answer id (.error .cancelled) else none

def complete? (broker : Broker World Task) (id : CallId) (transaction : TransactionId)
    (outcome : Outcome) : Option (Step World Task) :=
  if broker.shutdown || !broker.dispatcher.accepts then some (broker.answer id outcome)
  else if broker.hasRoom then
    let action := .complete transaction
    let (broker, events) := { broker with queue := broker.queue ++ [action] }.answer id outcome
    some (broker, .accepted id action :: events)
  else none

def advanceCall? (broker : Broker World Task) (id : CallId) : Option (Step World Task) := do
  let call ← broker.calls[id]?
  match call.phase, call.request with
  | .submitting, request => broker.submit? id request
  | .awaiting, _ => if broker.shutdown then some (broker.answer id (.error .cancelled)) else none
  | .told reply, _ =>
    if broker.shutdown then some (broker.answer id (.error .cancelled))
    else some (broker.learn id reply)
  | .reading, .collect kind transaction => broker.take? id kind transaction
  | .completing outcome, .collect _ transaction => broker.complete? id transaction outcome
  | _, _ => none

/-- The move of one participant; none if it is blocked. -/
def fire? (service : Service World Task) (broker : Broker World Task) :
    Move → Option (Step World Task)
  | .dispatcher => broker.dispatch? service
  | .run id => broker.advanceRun? service id
  | .call id => broker.advanceCall? id

end Broker

end InstanceBroker
