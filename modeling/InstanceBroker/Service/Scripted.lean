import InstanceBroker.Service.Basic

namespace InstanceBroker.Scripted

inductive Act
  | line (text : String)
  | send (result : CreateResult)
  /-- Wait for the gate and do not look at cancellation. -/
  | gate (name : String)
  | gateOrCancel (name : String)
  | check
deriving Repr

inductive Value
  | created (result : CreateResult)
  | details (details : InstanceDetails)
  | names (names : List String)
deriving Repr

structure Script where
  acts : List Act := []
  value : Option Value := none
  error : Option OperationError := none
  keepGoing : Bool := false
deriving Repr

inductive Note
  | called (operation : Operation)
  | succeeded
  | failed (error : OperationError)
  | ended (cancelled : Bool)
deriving DecidableEq, Repr

structure World where
  openGates : List String := []
  notes : List (TransactionId × Note) := []
deriving Repr

def World.note (world : World) (id : TransactionId) (note : Note) : World :=
  { world with notes := world.notes ++ [(id, note)] }

def World.release (world : World) (gate : String) : World :=
  { world with openGates := gate :: world.openGates }

inductive Phase
  | entering
  | playing (acts : List Act)
  /-- The first of these actions has reported progress, accepted or not. -/
  | reported (acts : List Act) (accepted : Bool)
deriving Repr

def defaultOutcome : (operation : Operation) → Except OperationError operation.kind.Returned
  | .create args => .ok { finished := false, name := args.name.getD "" }
  | .start _ | .stop _ | .quit _ | .delete _ => .ok ()
  | .status name => .error (.notFound name)
  | .listInstances => .ok []

def Script.outcome (script : Script) (operation : Operation) :
    Except OperationError operation.kind.Returned :=
  match script.error with
  | some e => .error e
  | none => match operation, script.value with
    | .create _, some (.created result) => .ok result
    | .status _, some (.details details) => .ok details
    | .listInstances, some (.names names) => .ok names
    | operation, _ => defaultOutcome operation

def Act.verdict? (context : Context) (world : World) : Act → Option (Except OperationError Unit)
  | .line _ | .send _ => some (.ok ())
  | .gate name => if world.openGates.contains name then some (.ok ()) else none
  | .gateOrCancel name =>
    if context.cancelled then some (.error .cancelled)
    else if world.openGates.contains name then some (.ok ()) else none
  | .check => some (if context.cancelled then .error .cancelled else .ok ())

def Act.progress? : Act → Option CreateResult
  | .line text => some (.progress text)
  | .send result => some result
  | _ => none

abbrev Scripts := List (TransactionId × Script)

namespace Scripts

def settleAct (script : Script) (context : Context) (kind : Operation.Kind) (world : World)
    (rest : List Act) : Except OperationError Unit → Demand World Phase kind
  | .ok () => .proceed (world.note context.id .succeeded) (.playing rest)
  | .error e =>
    let world := world.note context.id (.failed e)
    if script.keepGoing then .proceed world (.playing rest) else .finish world (.error e)

def play (script : Script) (context : Context) (operation : Operation) (world : World) :
    Phase → Demand World Phase operation.kind
  | .entering => .proceed (world.note context.id (.called operation)) (.playing script.acts)
  | .playing [] =>
    .finish (world.note context.id (.ended context.cancelled)) (script.outcome operation)
  | .playing (act :: rest) =>
    match decEq operation.kind .create, act.progress? with
    | isTrue isCreate, some progress => .report progress (.reported (act :: rest) true) isCreate
    | _, _ => match act.verdict? context world with
      | some verdict => settleAct script context operation.kind world rest verdict
      | none => .wait
  | .reported acts accepted =>
    settleAct script context operation.kind world (acts.drop 1)
      (if accepted then .ok () else .error .cancelled)

def step (scripts : Scripts) (context : Context) (operation : Operation) (world : World)
    (phase : Phase) : Demand World Phase operation.kind :=
  match scripts.lookup context.id with
  | some script => play script context operation world phase
  | none => .finish (world.note context.id (.called operation)) (defaultOutcome operation)

def longest (scripts : Scripts) : Nat :=
  scripts.foldl (fun most entry => max most entry.2.acts.length) 0

def weight (scripts : Scripts) : Phase → Nat
  | .entering => 3 * scripts.longest + 2
  | .playing acts => 3 * acts.length + 1
  | .reported acts _ => 3 * (acts.drop 1).length + 2

def service (scripts : Scripts) : Service World Phase where
  enter _ _ := .entering
  step := scripts.step
  resume
    | accepted, .reported acts _ => .reported acts accepted
    | _, phase => phase
  weight := scripts.weight
  cost _ := 3 * scripts.longest + 2

end Scripts

end InstanceBroker.Scripted
