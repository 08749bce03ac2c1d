import InstanceBroker.Service.Basic
import InstanceBroker.Service.Catalogue

namespace InstanceBroker.Simulated

structure Plan where
  creationSteps : List String := ["Downloading workload image", "Booting instance"]
  stepDelay : Duration := .zero
  operationDelay : Duration := .zero
deriving Repr

inductive Phase
  | entering
  /-- A creation with these steps still to report. -/
  | announcing (name : String) (steps : List String)
  | announced (name : String) (steps : List String)
  | refused
  | resting (name : String) (steps : List String) (due : Nat)
  | registering (name : String) (port : UInt16)
  | delayed (due : Nat)
deriving Repr

abbrev Answered (kind : Operation.Kind) := Demand Catalogue Phase kind

def change (world : Catalogue) (changed : Except OperationError Catalogue) :
    Catalogue × Except OperationError Unit :=
  match changed with
  | .ok world => (world, .ok ())
  | .error e => (world, .error e)

def carryOut (world : Catalogue) : (operation : Operation) → operation.kind ≠ .create →
    Catalogue × Except OperationError operation.kind.Returned
  | .create _, notCreate => absurd rfl notCreate
  | .start args, _ => change world (world.start args.name args.spec)
  | .stop name, _ => change world (world.stop name)
  | .quit name, _ => change world (world.quit name)
  | .delete name, _ => change world (world.delete name)
  | .status name, _ => (world, world.status name)
  | .listInstances, _ => (world, .ok world.names)

namespace Plan

def create (plan : Plan) (context : Context) (args : CreateArgs) (world : Catalogue) :
    Phase → Answered .create
  | .entering =>
    let (name, world) := match args.name with
      | some name => (name, world)
      | none => world.generateName
    if world.contains name then .finish world (.error (.alreadyExists name))
    else .proceed world (.announcing name plan.creationSteps)
  | .announcing name [] =>
    match world.takePort with
    | .error e => .finish world (.error e)
    | .ok (port, world) => .proceed world (.registering name port)
  | .announcing name (step :: steps) => .report (.progress step) (.announced name steps) rfl
  | .announced name steps =>
    if !plan.stepDelay.isZero then
      .proceed world (.resting name steps (context.now + plan.stepDelay.nanos))
    else if context.cancelled then .finish world (.error .cancelled)
    else .proceed world (.announcing name steps)
  | .refused => .finish world (.error .cancelled)
  | .resting name steps due =>
    if context.cancelled then .finish world (.error .cancelled)
    else if due ≤ context.now then .proceed world (.announcing name steps)
    else .wait
  | .registering name port =>
    let workload := if args.workload.isEmpty then Catalogue.defaultWorkload else args.workload
    let details := Catalogue.describe name workload (args.customSpec.getD {}) port
    match world.register details with
    | .error e => .finish world (.error e)
    | .ok world => .finish world (.ok (.complete name))
  | .delayed _ => .wait

/-- One step of any other operation: it waits out the delay and then acts at once. -/
def other (plan : Plan) (context : Context) (operation : Operation)
    (notCreate : operation.kind ≠ .create) (world : Catalogue) :
    Phase → Answered operation.kind
  | .entering =>
    if !plan.operationDelay.isZero then
      .proceed world (.delayed (context.now + plan.operationDelay.nanos))
    else act
  | .delayed due =>
    if context.cancelled then .finish world (.error .cancelled)
    else if due ≤ context.now then act
    else .wait
  | _ => .wait
where
  act : Answered operation.kind :=
    if context.cancelled then .finish world (.error .cancelled)
    else
      let (world, outcome) := carryOut world operation notCreate
      .finish world outcome

def step (plan : Plan) (context : Context) (operation : Operation) (world : Catalogue)
    (phase : Phase) : Answered operation.kind :=
  match operation with
  | .create args => plan.create context args world phase
  | .start args => plan.other context (.start args) (by simp [Operation.kind]) world phase
  | .stop name => plan.other context (.stop name) (by simp [Operation.kind]) world phase
  | .quit name => plan.other context (.quit name) (by simp [Operation.kind]) world phase
  | .delete name => plan.other context (.delete name) (by simp [Operation.kind]) world phase
  | .status name => plan.other context (.status name) (by simp [Operation.kind]) world phase
  | .listInstances => plan.other context .listInstances (by simp [Operation.kind]) world phase

def weight (plan : Plan) : Phase → Nat
  | .entering => 4 * plan.creationSteps.length + 3
  | .announcing _ steps => 4 * steps.length + 2
  | .announced _ steps => 4 * steps.length + 5
  | .refused => 0
  | .resting _ steps _ => 4 * steps.length + 4
  | .registering _ _ => 1
  | .delayed _ => 1

def service (plan : Plan) : Service Catalogue Phase where
  enter _ _ := .entering
  step := plan.step
  resume
    | true, phase => phase
    | false, _ => .refused
  weight := plan.weight
  cost _ := 4 * plan.creationSteps.length + 3

end Plan

end InstanceBroker.Simulated
