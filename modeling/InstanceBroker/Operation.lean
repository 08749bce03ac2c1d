import InstanceBroker.Instance

namespace InstanceBroker

structure CreateArgs where
  name : Option String := none
  workload : String := ""
  debug : Bool := false
  update : Bool := false
  customSpec : Option MachineSpec := none
deriving DecidableEq, Repr

structure StartArgs where
  name : String
  spec : MachineSpec := {}
deriving DecidableEq, Repr

/-- One report of a creation: a progress line, or the final name once `finished`. -/
structure CreateResult where
  finished : Bool
  name : String := ""
  line : Option String := none
deriving DecidableEq, Repr

def CreateResult.progress (line : String) : CreateResult :=
  { finished := false, line := some line }

def CreateResult.complete (name : String) : CreateResult :=
  { finished := true, name }

inductive Operation.Kind
  | create | start | stop | quit | delete | status | listInstances
deriving DecidableEq, Repr

inductive Operation
  | create (args : CreateArgs)
  | start (args : StartArgs)
  | stop (name : String)
  | quit (name : String)
  | delete (name : String)
  | status (name : String)
  | listInstances
deriving DecidableEq, Repr

def Operation.kind : Operation → Operation.Kind
  | .create _ => .create
  | .start _ => .start
  | .stop _ => .stop
  | .quit _ => .quit
  | .delete _ => .delete
  | .status _ => .status
  | .listInstances => .listInstances

namespace Operation.Kind

def label : Kind → String
  | create => "create"
  | start => "start"
  | stop => "stop"
  | quit => "quit"
  | delete => "delete"
  | status => "status"
  | listInstances => "list-instances"

def Returned : Kind → Type
  | create => CreateResult
  | start => Unit
  | stop => Unit
  | quit => Unit
  | delete => Unit
  | status => InstanceDetails
  | listInstances => List String

def expectation : Kind → String
  | create => "create"
  | start | stop | quit | delete => "completion"
  | status => "instance details"
  | listInstances => "instance list"

end Operation.Kind

inductive OperationError.Kind
  | notFound | alreadyExists | cancelled | backend
deriving DecidableEq, Repr

structure OperationError where
  kind : OperationError.Kind
  message : String
deriving DecidableEq, Repr

namespace OperationError

def notFound (name : String) : OperationError :=
  ⟨.notFound, s!"Instance '{name}' not found"⟩

def alreadyExists (name : String) : OperationError :=
  ⟨.alreadyExists, s!"Instance '{name}' already exists"⟩

def cancelled : OperationError := ⟨.cancelled, "Operation cancelled"⟩

def backend (message : String) : OperationError := ⟨.backend, message⟩

end OperationError

inductive Payload
  | created (result : CreateResult)
  | done
  | details (details : InstanceDetails)
  | instances (names : List String)
deriving DecidableEq, Repr

/-- The payload of an operation; a creation that ended is marked finished whatever it says. -/
def Operation.Kind.payload : (kind : Kind) → kind.Returned → Payload
  | create, result => .created { result with finished := true }
  | start, _ => .done
  | stop, _ => .done
  | quit, _ => .done
  | delete, _ => .done
  | status, details => .details details
  | listInstances, names => .instances names

inductive ResultValue
  | progress (result : CreateResult)
  | final (payload : Payload)
  | failed (error : OperationError)
deriving DecidableEq, Repr

def ResultValue.isTerminal : ResultValue → Bool
  | progress _ => false
  | final _ | failed _ => true

def ResultValue.ofProgress (result : CreateResult) : ResultValue :=
  .progress { result with finished := false }

def ResultValue.ofOutcome (kind : Operation.Kind) :
    Except OperationError kind.Returned → ResultValue
  | .ok value => .final (kind.payload value)
  | .error e => .failed e

end InstanceBroker
