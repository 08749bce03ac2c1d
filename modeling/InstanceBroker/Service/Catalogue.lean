import InstanceBroker.Operation

namespace InstanceBroker

structure Catalogue.Entry where
  details : InstanceDetails
  running : Bool
deriving DecidableEq, Repr

structure Catalogue where
  entries : List (String × Catalogue.Entry) := []
  /-- Kept in 64 bits, which is no bound here, as for the identifiers of transactions. -/
  nextName : Nat := 1
  nextPort : Nat := 10022
deriving DecidableEq, Repr

namespace Catalogue

def defaultWorkload : String := "ubuntu"

/-- Ports are handed out below this one, which is never reached. -/
def portLimit : Nat := 65535

def find? (catalogue : Catalogue) (name : String) : Option Entry :=
  catalogue.entries.lookup name

def contains (catalogue : Catalogue) (name : String) : Bool := (catalogue.find? name).isSome

def isRunning (catalogue : Catalogue) (name : String) : Bool :=
  (catalogue.find? name).any (·.running)

def names (catalogue : Catalogue) : List String := catalogue.entries.map (·.1)

def place (name : String) (entry : Entry) : List (String × Entry) → List (String × Entry)
  | [] => [(name, entry)]
  | (other, there) :: rest =>
    if name < other then (name, entry) :: (other, there) :: rest
    else if name = other then (name, entry) :: rest
    else (other, there) :: place name entry rest

def put (catalogue : Catalogue) (name : String) (entry : Entry) : Catalogue :=
  { catalogue with entries := place name entry catalogue.entries }

def erase (catalogue : Catalogue) (name : String) : Catalogue :=
  { catalogue with entries := catalogue.entries.filter (·.1 ≠ name) }

def generateName (catalogue : Catalogue) : String × Catalogue :=
  (s!"vm{catalogue.nextName}", { catalogue with nextName := catalogue.nextName + 1 })

def takePort (catalogue : Catalogue) : Except OperationError (UInt16 × Catalogue) :=
  if catalogue.nextPort < portLimit then
    .ok (.ofNat catalogue.nextPort, { catalogue with nextPort := catalogue.nextPort + 1 })
  else .error (.backend "No SSH ports left to forward")

def describe (name workload : String) (spec : MachineSpec) (port : UInt16) : InstanceDetails :=
  { name, workload, spec
    ssh := { keyPath := s!"/var/lib/vm-broker/instances/{name}/id_rsa", port } }

/-- Adds a stopped instance before any operation runs; with no port left nothing is added. -/
def seed (catalogue : Catalogue) (name : String) (spec : MachineSpec) : Catalogue :=
  match catalogue.takePort with
  | .error _ => catalogue
  | .ok (port, catalogue) =>
    catalogue.put name { details := describe name defaultWorkload spec port, running := false }

def register (catalogue : Catalogue) (details : InstanceDetails) :
    Except OperationError Catalogue :=
  if catalogue.contains details.name then .error (.alreadyExists details.name)
  else .ok (catalogue.put details.name { details, running := true })

def existing (catalogue : Catalogue) (name : String) : Except OperationError Entry :=
  match catalogue.find? name with
  | some entry => .ok entry
  | none => .error (.notFound name)

def start (catalogue : Catalogue) (name : String) (spec : MachineSpec) :
    Except OperationError Catalogue := do
  let entry ← catalogue.existing name
  if entry.running then throw (.backend s!"Instance '{name}' is already running")
  return catalogue.put name { details := { entry.details with spec }, running := true }

def stop (catalogue : Catalogue) (name : String) : Except OperationError Catalogue := do
  let entry ← catalogue.existing name
  if !entry.running then throw (.backend s!"Instance '{name}' is not running")
  return catalogue.put name { entry with running := false }

def quit (catalogue : Catalogue) (name : String) : Except OperationError Catalogue := do
  let entry ← catalogue.existing name
  return catalogue.put name { entry with running := false }

def delete (catalogue : Catalogue) (name : String) : Except OperationError Catalogue := do
  let _ ← catalogue.existing name
  return catalogue.erase name

def status (catalogue : Catalogue) (name : String) : Except OperationError InstanceDetails := do
  return (← catalogue.existing name).details

end Catalogue

end InstanceBroker
