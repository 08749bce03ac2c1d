import InstanceBroker.Proofs.Persistence
import InstanceBroker.Proofs.Quiescence

namespace InstanceBroker

variable {World Task : Type} {service : Service World Task}

def Operation.Kind.told (kind : Operation.Kind) : Except OperationError kind.Returned → Outcome
  | .ok returned => .ok (kind.payload returned).answer
  | .error e => .error (.operation e)

theorem Operation.Kind.judge_ofOutcome (kind : Operation.Kind) (id : TransactionId)
    (outcome : Except OperationError kind.Returned) :
    (kind.judge id (.ofOutcome kind outcome)).outcome = kind.told outcome := by
  cases outcome with
  | error => rfl
  | ok returned =>
    rw [ResultValue.ofOutcome, judge, answer?_eq, if_pos (kind.family_payload returned)]
    rfl

namespace Broker

variable {broker after : Broker World Task} {turn : Turn World} {events : List Event}
  {id : TransactionId}

theorem world_step (taken : broker.turn? service turn = some (after, events))
    (still : ∀ id, turn ≠ .move (.run id)) (own : ∀ world, turn ≠ .world world) :
    after.world = broker.world := by
  cases turns_of_turn? taken with
  | dispatched running dispatches =>
    cases dispatches with
    | stopped => rw [stop_frame]
    | handled up head handles => rw [handles.frame]
    | swept => rw [sweep_frame]
  | advanced => exact absurd rfl (still _)
  | progressed => rw [(moved_frame ..).1]
  | received => rw [receive_frame]
  | changed => exact absurd rfl (own _)

theorem closing_step (taken : broker.turn? service turn = some (after, events)) {run : Run Task}
    (found : broker.run? id = some run) (closing : run.isClosing = true) :
    ∃ next, after.run? id = some next ∧ next.isClosing = true := by
  obtain ⟨next, there, step⟩ := run_step taken found
  refine ⟨next, there, ?_⟩
  cases step with
  | kept | read | signalled => exact closing
  | advanced advances =>
    cases advances with
    | proceeded phase | reported phase | dropped phase | finished phase | accepted phase
    | refused phase =>
      rw [Run.isClosing, phase] at closing
      cases closing
    | delivered | undelivered => rfl

theorem demanded_iff {operation : Operation} {demand : Demand World Task operation.kind} :
    Demanded service [⟨broker, turn, events⟩] id operation demand ↔
      turn = .move (.run id) ∧ ∃ run task, broker.run? id = some run ∧
        run.operation = operation ∧
        run.phase = .working task ∧
        service.step (broker.context id) operation broker.world task = demand := by
  simp [Demanded]

theorem world_of_demanded (taken : broker.turn? service turn = some (after, events))
    {operation : Operation} {world : World}
    {outcome : Except OperationError operation.kind.Returned}
    (demanded : Demanded service [⟨broker, turn, events⟩] id operation
      (.finish world outcome)) :
    after.world = world ∧ ∃ next, after.run? id = some next ∧ next.isClosing = true := by
  obtain ⟨rfl, run, task, found, rfl, working, demands⟩ := demanded_iff.mp demanded
  cases turns_of_turn? taken with
  | advanced moves advances =>
    cases found.symm.trans moves
    rw [run?_mapRun, if_pos rfl]
    have there (world : World) : { broker with world }.run? id = some run :=
      found ▸ broker.run?_congr rfl id
    rw [there, (advanced_frame ..).1]
    cases advances with
    | proceeded phase demands' | reported phase demands' =>
      cases working.symm.trans phase
      cases demands.symm.trans demands'
    | dropped phase demands' | finished phase demands' =>
      cases working.symm.trans phase
      cases demands.symm.trans demands'
      exact ⟨rfl, _, rfl, rfl⟩
    | accepted phase | refused phase | delivered phase | undelivered phase =>
      cases working.symm.trans phase

end Broker

namespace Trace

variable {start last : Broker World Task} {first later moments : List (Moment World Task)}
  {moment : Moment World Task} {id : TransactionId} {operation other : Operation}

theorem closing (trace : Trace service start moments last) {run : Run Task}
    (found : start.run? id = some run) (closing : run.isClosing = true) :
    ∃ next, last.run? id = some next ∧ next.isClosing = true := by
  induction trace with
  | nil => exact ⟨run, found, closing⟩
  | snoc earlier taken ih =>
    obtain ⟨middle, there, closing⟩ := ih
    exact Broker.closing_step taken there closing

theorem concluded_once (trace : Trace service start (first ++ moment :: later) last)
    {outcome : Except OperationError operation.kind.Returned}
    (concluded : Concluded service [moment] id operation outcome)
    (outcome' : Except OperationError other.kind.Returned) :
    ¬ Concluded service later id other outcome' := by
  rintro ⟨world', next, among, turn', run', task', found', rfl, working', -⟩
  obtain ⟨world, demanded⟩ := concluded
  obtain ⟨broker, turn, events⟩ := moment
  obtain ⟨after, -, taken, rest⟩ := trace.split_at
  obtain ⟨-, run, there, closing⟩ := Broker.world_of_demanded taken demanded
  obtain ⟨_, _, _, rfl, between, -, -⟩ := rest.split among
  obtain ⟨still, here, closing⟩ := between.closing there closing
  cases found'.symm.trans here
  rw [Run.isClosing, working'] at closing
  cases closing

theorem concluded_of_closing (trace : Trace service start moments last)
    {run next : Run Task}
    (found : start.run? id = some run) (open_ : run.isClosing = false)
    (there : last.run? id = some next) (closing : next.isClosing = true) :
    ∃ outcome, Concluded service moments id run.operation outcome := by
  induction trace generalizing next with
  | nil =>
    cases found.symm.trans there
    cases open_.symm.trans closing
  | @snoc moments broker after turn events earlier taken ih =>
    obtain ⟨middle, between, operation⟩ := earlier.operation_kept found
    by_cases before : middle.isClosing = true
    · obtain ⟨outcome, world, demanded⟩ := ih between before
      exact ⟨outcome, world, demanded.mono (List.subset_append_left ..)⟩
    · obtain ⟨next', here, step⟩ := Broker.run_step taken between
      cases there.symm.trans here
      cases step with
      | kept | read | signalled => exact absurd closing before
      | advanced advances =>
        have returns {task : Task} {world : World}
            {outcome : Except OperationError middle.operation.kind.Returned}
            (working : middle.phase = .working task)
            (demand : service.step (broker.context id) middle.operation broker.world task =
              .finish world outcome) :
            ∃ outcome, Concluded service (moments ++ [⟨broker, .move (.run id), events⟩]) id
              run.operation outcome := by
          rw [← operation]
          exact ⟨outcome, world, _, List.mem_append_right _ (List.mem_singleton.mpr rfl), rfl,
            middle, task, between, rfl, working, demand⟩
        cases advances with
        | dropped working demand | finished working demand => exact returns working demand
        | proceeded | reported | accepted | refused => cases closing
        | delivered delivering | undelivered delivering =>
          simp [Run.isClosing, delivering] at before

variable {config : Config} {origin : Timestamp} {world : World} {thrownAway : List TransactionId}

theorem openedFor_of_concluded
    (trace : Trace service (.fresh config origin world thrownAway) moments last)
    {outcome : Except OperationError operation.kind.Returned}
    (concluded : Concluded service moments id operation outcome) :
    OpenedFor moments id operation := by
  obtain ⟨_, moment, among, -, run, task, found, rfl, -, -⟩ := concluded
  obtain ⟨first, later, after, rfl, before, -, -⟩ := trace.split among
  exact (before.openedFor_of_run found).mono (List.subset_append_left ..)

end Trace

/-- What a caller may hear that asks for a result of the operation as what it is: that a creation
has made progress, or what the operation returned. -/
inductive Heard (service : Service World Task) (moments : List (Moment World Task))
    (id : TransactionId) : Operation → Outcome → Prop
  | report {args : CreateArgs} {progress : CreateResult}
      (reported : Reported service moments id (.create args) progress) :
      Heard service moments id (.create args)
        (.ok (.created { progress with finished := false }))
  | result {operation : Operation} {outcome : Except OperationError operation.kind.Returned}
      (concluded : Concluded service moments id operation outcome) :
      Heard service moments id operation (operation.kind.told outcome)

namespace Trace

variable {config : Config} {origin : Timestamp} {world : World} {thrownAway : List TransactionId}
  {moments : List (Moment World Task)} {last : Broker World Task} {id : TransactionId}
  {operation : Operation} {caller : CallId}

theorem heard_of_took
    (trace : Trace service (.fresh config origin world thrownAway) moments last)
    (opened : OpenedFor moments id operation) {value : ResultValue}
    (took : (caller, value) ∈ takes id (history moments)) :
    Heard service moments id operation (operation.kind.judge id value).outcome := by
  obtain ⟨asked, opened', made⟩ := trace.made_of_took took
  cases trace.opener opened opened'
  cases made with
  | reported isCreate reported =>
    cases operation with
    | create => exact .report reported
    | start | stop | quit | delete | status | listInstances => cases isCreate
  | concluded concluded =>
    rw [Operation.Kind.judge_ofOutcome]
    exact .result concluded

theorem heard_or_barren
    (trace : Trace service (.fresh config origin world thrownAway) moments last)
    (opened : OpenedFor moments id operation) {outcome : Outcome}
    (found : last.calls[caller]? =
      some { request := .collect operation.kind id, phase := .answered outcome }) :
    Heard service moments id operation outcome ∨
      takenBy caller (history moments) = [] ∧
        ∃ fault, outcome = .error fault ∧ fault.isBarren id := by
  rcases (trace.account caller).2 _ found with ⟨value, mine, rfl⟩ | barren
  · exact .inl (trace.heard_of_took opened (mem_takes.mpr (took_of_sole mine)))
  · exact .inr barren

/-- Who asks for the result until it is there hears of it, and of nothing else. -/
theorem heard_of_persistent
    (trace : Trace service (.fresh config origin world thrownAway) moments last)
    (opened : OpenedFor moments id operation) (carried : id ∉ thrownAway)
    (uncancelled : last.isCancelled id = false)
    (persistent : ∀ moment ∈ moments, moment.broker.Persistent id moment.turn)
    {outcome : Outcome} (found : last.calls[caller]? =
      some { request := .collect operation.kind id, phase := .answered outcome }) :
    Heard service moments id operation outcome := by
  obtain ⟨run, begun, -⟩ := trace.run_of_openedFor opened
  have positive := ((last.run?_isSome_iff id).mp (Option.isSome_of_eq_some begun)).1
  obtain ⟨value, took, rfl⟩ :=
    trace.took_of_persistent carried positive uncancelled persistent found
  exact trace.heard_of_took opened took

theorem waits_of_pending
    (trace : Trace service (.fresh config origin world thrownAway) moments last)
    (valid : config.validate = .ok config) (settled : last.Settled service)
    (opened : OpenedFor moments id operation) {call : Call}
    (found : last.calls[caller]? = some call) (asks : call.request.asks id = true)
    (pending : call.isPending = true) :
    call.phase = .reading ∧ ∃ run, last.run? id = some run ∧
      Broker.Waits service last id run := by
  have formed := trace.wellFormed
  have up := Broker.up_of_blocked formed found pending (settled (.call caller))
  obtain ⟨run, begun, -⟩ := trace.run_of_openedFor opened
  obtain ⟨due, running⟩ := Broker.accepts_of_pending formed up begun found pending
  have quiet := quiet_of_settled valid trace running up settled
  obtain ⟨kind, other, _, reads⟩ := quiet.calls caller call found pending
  obtain ⟨kind', asked⟩ := Request.asks_iff.mp asks
  cases reads.request.symm.trans asked
  refine ⟨reads.phase, _, reads.found, ?_⟩
  rcases quiet.runs id _ reads.found reads.ongoing with waits | ⟨-, -, -, -, unread⟩
  · exact waits
  · exact absurd asked (unread caller call found pending _)

end Trace

end InstanceBroker
