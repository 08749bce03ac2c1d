import InstanceBroker.Request

namespace InstanceBroker

structure Context where
  id : TransactionId
  now : Nat
  cancelled : Bool

inductive Demand (World Task : Type) (kind : Operation.Kind)
  /-- Nothing, until the clock, the world or the cancellation changes. -/
  | wait
  | proceed (world : World) (task : Task)
  /-- Report progress, which only a creation does, and go on once it is accepted or refused. -/
  | report (progress : CreateResult) (task : Task) (isCreate : kind = .create)
  | finish (world : World) (outcome : Except OperationError kind.Returned)

structure Service (World Task : Type) where
  enter : TransactionId → Operation → Task
  step : Context → (operation : Operation) → World → Task → Demand World Task operation.kind
  resume : (accepted : Bool) → Task → Task
  /-- How many more steps a task can take without waiting. -/
  weight : Task → Nat
  /-- No task that carries out the operation weighs more when it enters. -/
  cost : Operation → Nat

/-- The weights of a service are true: each step makes the task lighter. -/
structure Service.Tires {World Task : Type} (service : Service World Task) : Prop where
  enter_le : ∀ id operation,
    service.weight (service.enter id operation) ≤ service.cost operation
  resume_le : ∀ accepted task,
    service.weight (service.resume accepted task) ≤ service.weight task
  proceed_lt : ∀ context operation world task world' task',
    service.step context operation world task = .proceed world' task' →
      service.weight task' < service.weight task
  report_lt : ∀ context operation world task progress task' isCreate,
    service.step context operation world task = .report progress task' isCreate →
      service.weight task' < service.weight task

end InstanceBroker
