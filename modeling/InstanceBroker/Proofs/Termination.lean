import InstanceBroker.Proofs.Expiry
import InstanceBroker.Proofs.Isolation.Schedule
import InstanceBroker.Service.Simulated

namespace InstanceBroker

variable {World Task : Type} {service : Service World Task}

namespace Broker

inductive Moves (service : Service World Task) :
    Broker World Task → Nat → Broker World Task → Prop
  | none {broker : Broker World Task} : Moves service broker 0 broker
  | more {broker middle last : Broker World Task} {move : Move} {events : List Event} {count : Nat}
      (fired : broker.fire? service move = some (middle, events))
      (moves : Moves service middle count last) : Moves service broker (count + 1) last

structure Unending (service : Service World Task) (stages : Nat → Broker World Task) : Prop where
  fired : ∀ n, ∃ move events, (stages n).fire? service move = some (stages (n + 1), events)

/-- How the participants of a broker come to rest when nothing happens outside. -/
structure Rests (service : Service World Task) (broker : Broker World Task) : Prop where
  bounded : ∀ count after, Moves service broker count after → count ≤ broker.effort service
  ending : ∀ stages, stages 0 = broker → ¬ Unending service stages
  settles : ∀ count middle, Moves service broker count middle →
    ∃ events last, Settles service middle events last
  ordered : Settles service broker (broker.settle service).2 (broker.settle service).1

variable {broker after : Broker World Task} {count : Nat}

theorem Moves.paced (moves : Moves service broker count after) (paced : broker.Paced) :
    after.Paced := by
  induction moves with
  | none => exact paced
  | @more broker middle _ move _ _ fired _ ih =>
    have taken : broker.turn? service (.move move) = some (middle, _) := fired
    exact ih (paced_step paced taken)

theorem Moves.effort_le (tires : service.Tires) (paced : broker.Paced)
    (moves : Moves service broker count after) :
    count + after.effort service ≤ broker.effort service := by
  induction moves with
  | none => exact Nat.le_of_eq (Nat.zero_add _)
  | @more broker middle _ move _ _ fired moves ih =>
    have less := effort_lt tires paced fired
    have taken : broker.turn? service (.move move) = some (middle, _) := fired
    have rest := ih (paced_step paced taken)
    omega

theorem Unending.moves {stages : Nat → Broker World Task} (unending : Unending service stages)
    (n : Nat) : Moves service (stages 0) n (stages n) := by
  induction n generalizing stages with
  | zero => exact .none
  | succ n ih =>
    obtain ⟨move, events, fired⟩ := unending.fired 0
    have rest : Unending service fun n => stages (n + 1) := ⟨fun n => unending.fired (n + 1)⟩
    exact .more fired (ih rest)

theorem rests_of_paced (tires : service.Tires) (paced : broker.Paced) : broker.Rests service where
  bounded count after moves := Nat.le_of_add_right_le (moves.effort_le tires paced)
  ending := by
    rintro stages rfl unending
    have bound := (unending.moves ((stages 0).effort service + 1)).effort_le tires paced
    omega
  settles _ _ moves := ⟨_, _, settles_settle tires (moves.paced paced)⟩
  ordered := settles_settle tires paced

section Restless

variable {ttl : Duration} {due : Nat}

/-- Without time between them, the sweeps that are due never come to an end. -/
theorem restless_of_unpaced (running : broker.dispatcher = .running due)
    (up : broker.shutdown = false) (idle : broker.queue = []) (senders : broker.hasSenders = true)
    (limit : broker.config.transactionTtl = some ttl)
    (unpaced : broker.config.sweepInterval.nanos = 0) (reached : due ≤ broker.clock) :
    ∃ stages, stages 0 = broker ∧ Unending service stages := by
  let sweeps : Nat → Broker World Task := Nat.rec broker fun _ swept => (swept.sweep ttl due).1
  -- A sweep leaves all that makes the next one due as it was.
  have again (n : Nat) : (sweeps n).dispatcher = .running due ∧ (sweeps n).shutdown = false ∧
      (sweeps n).queue = [] ∧ (sweeps n).hasSenders = true ∧
      (sweeps n).config = broker.config ∧
      (sweeps n).clock = broker.clock := by
    induction n with
    | zero => exact ⟨running, up, idle, senders, rfl, rfl⟩
    | succ n ih =>
      obtain ⟨_, up, idle, senders, config, clock⟩ := ih
      have next : sweeps (n + 1) = ((sweeps n).sweep ttl due).1 := rfl
      rw [next, sweep_frame]
      refine ⟨?_, up, idle, senders, config, clock⟩
      simp only [sweepAfter, config, unpaced, Nat.add_zero]
  refine ⟨sweeps, rfl, ⟨fun n => ?_⟩⟩
  obtain ⟨running, up, idle, senders, config, clock⟩ := again n
  have due_now : due ≤ (sweeps n).clock := clock ▸ reached
  exact ⟨.dispatcher, _, by
    simp only [fire?, dispatch?, running, up, idle, senders, config, limit, due_now, if_true,
      Bool.not_true, Bool.false_eq_true, if_false]
    rfl⟩

end Restless

end Broker

namespace Simulated.Plan

def Lighter (plan : Plan) (bound : Nat) {kind : Operation.Kind} : Answered kind → Prop
  | .wait | .finish .. => True
  | .proceed _ next | .report _ next _ => plan.weight next < bound

theorem lighter_create (plan : Plan) (context : Context) (args : CreateArgs) (world : Catalogue)
    (phase : Phase) : plan.Lighter (plan.weight phase) (plan.create context args world phase) := by
  cases phase with
  | entering =>
    simp only [create]
    split
    all_goals
      split
      · exact trivial
      · simp only [Lighter, weight]
        omega
  | announcing name steps =>
    cases steps with
    | nil =>
      simp only [create]
      split
      · exact trivial
      · simp only [Lighter, weight]
        omega
    | cons step steps =>
      simp only [create, Lighter, weight, List.length_cons]
      omega
  | announced name steps =>
    simp only [create]
    split
    · simp only [Lighter, weight]
      omega
    · split
      · exact trivial
      · simp only [Lighter, weight]
        omega
  | refused | delayed => exact trivial
  | resting name steps due =>
    simp only [create]
    split
    · exact trivial
    · split
      · simp only [Lighter, weight]
        omega
      · exact trivial
  | registering name port =>
    simp only [create]
    split <;> exact trivial

theorem lighter_act (plan : Plan) (context : Context) (operation : Operation)
    (notCreate : operation.kind ≠ .create) (world : Catalogue) (bound : Nat) :
    plan.Lighter bound (other.act context operation notCreate world) := by
  simp only [other.act]
  split <;> exact trivial

theorem lighter_other (plan : Plan) (context : Context) (operation : Operation)
    (notCreate : operation.kind ≠ .create) (world : Catalogue) (phase : Phase) :
    plan.Lighter (plan.weight phase) (plan.other context operation notCreate world phase) := by
  cases phase with
  | entering =>
    simp only [other]
    split
    · simp only [Lighter, weight]
      omega
    · exact lighter_act ..
  | delayed due =>
    simp only [other]
    split
    · exact trivial
    · split
      · exact lighter_act ..
      · exact trivial
  | announcing | announced | refused | resting | registering => exact trivial

theorem lighter_step (plan : Plan) (context : Context) (operation : Operation) (world : Catalogue)
    (phase : Phase) :
    plan.Lighter (plan.weight phase) (plan.step context operation world phase) := by
  cases operation with
  | create args => exact plan.lighter_create ..
  | start | stop | quit | delete | status | listInstances => exact plan.lighter_other ..

theorem tires (plan : Plan) : plan.service.Tires where
  enter_le _ _ := Nat.le_refl _
  resume_le accepted phase := by
    cases accepted with
    | true => exact Nat.le_refl _
    | false => exact Nat.zero_le _
  proceed_lt context operation world phase world' next demand := by
    have lighter := plan.lighter_step context operation world phase
    have proceeds : plan.step context operation world phase = .proceed world' next := demand
    rwa [proceeds] at lighter
  report_lt context operation world phase progress next isCreate demand := by
    have lighter := plan.lighter_step context operation world phase
    have reports : plan.step context operation world phase = .report progress next isCreate :=
      demand
    rwa [reports] at lighter

end Simulated.Plan

/-- The services that come with a broker: a simulated one, and scripts, which stand for any
other. -/
inductive Service.Provided : {World Task : Type} → Service World Task → Prop
  | simulated (plan : Simulated.Plan) : Provided plan.service
  | scripted (scripts : Scripted.Scripts) : Provided scripts.service

theorem Service.Provided.tires (provided : service.Provided) : service.Tires := by
  cases provided with
  | simulated plan => exact plan.tires
  | scripted scripts => exact scripts.tires

section Reached

variable {config : Config} {origin : Timestamp} {world : World} {thrownAway : List TransactionId}
  {moments : List (Moment World Task)} {last : Broker World Task}

theorem Trace.paced (trace : Trace service (.fresh config origin world thrownAway) moments last)
    (valid : config.validate = .ok config) : last.Paced := by
  have config_eq : last.config = config := trace.config_eq
  intro limited
  rw [config_eq] at limited ⊢
  obtain ⟨ttl, limit⟩ := Option.isSome_iff_exists.mp limited
  exact Config.sweepInterval_pos valid limit

/-- Wherever a usable broker has got to, it comes to rest. -/
theorem rests_of_trace (provided : service.Provided) (valid : config.validate = .ok config)
    (trace : Trace service (.fresh config origin world thrownAway) moments last) :
    last.Rests service :=
  Broker.rests_of_paced provided.tires (trace.paced valid)

end Reached

def hurried : Config where
  actionQueueCapacity := 1
  transactionTtl := some (.ofMillis 1)
  sweepInterval := ⟨500000⟩

def hurrying : List (Turn Catalogue) :=
  [.input .startDispatcher, .input (.request (.initiate (.create {}))), .move (.call 0),
    .move .dispatcher, .move (.run 1), .move (.run 1),
    .input (.request (.collect .create 1)), .move (.call 1), .input (.request .listTransactions),
    .input .tick, .input .tick, .input .shutdown]

theorem rests_hurrying : ∃ moments last,
    (Broker.fresh hurried ⟨0, 0⟩ {} []).follow? (Simulated.Plan.service {}) hurrying =
      some (moments, last) ∧
    hurried.validate = .ok hurried ∧ last.dispatcher = .running 500000 ∧
    last.clock = 2000000 ∧
    last.shutdown = true ∧ last.queue = [.getResult 1 1] ∧
    (last.calls.filter (·.isPending)).length = 3 ∧
    last.Rests (Simulated.Plan.service {}) := by
  have runs : ∃ moments last,
      (Broker.fresh hurried ⟨0, 0⟩ {} []).follow? (Simulated.Plan.service {}) hurrying =
        some (moments, last) ∧
      last.dispatcher = .running 500000 ∧ last.clock = 2000000 ∧
      last.shutdown = true ∧ last.queue = [.getResult 1 1] ∧
      (last.calls.filter (·.isPending)).length = 3 := ⟨_, _, rfl, rfl, rfl, rfl, rfl, rfl⟩
  obtain ⟨moments, last, followed, running, clock, down, queue, pending⟩ := runs
  have valid : hurried.validate = .ok hurried := rfl
  exact ⟨moments, last, followed, valid, running, clock, down, queue, pending,
    rests_of_trace (.simulated {}) valid (.of_follow? followed)⟩

end InstanceBroker
