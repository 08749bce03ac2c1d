import InstanceBroker.Proofs.Frame

namespace InstanceBroker

variable {World Task : Type}

/-- The answer a caller gives once it has the reply; access to results is no answer yet. -/
def DispatcherReply.outcome? : DispatcherReply → Option Outcome
  | .opened id => some (.ok (.started id))
  | .granted => none
  | .refused fault => some (.error fault)
  | .listing infos => some (.ok (.transactions infos))

namespace Broker

def context (broker : Broker World Task) (id : TransactionId) : Context :=
  { id, now := broker.clock, cancelled := broker.isCancelled id }

def opening (service : Service World Task) (broker : Broker World Task) (operation : Operation) :
    Broker World Task :=
  let phase : Run.Phase Task :=
    if broker.thrownAway.contains broker.table.nextId then .ended
    else .working (service.enter broker.table.nextId operation)
  { broker with
    table := broker.table.allocate operation.kind (broker.origin.after ⟨broker.clock⟩)
      broker.clock
    runs := broker.runs ++ [{ operation, phase }] }

def taking (broker : Broker World Task) : Option (TransactionId × List ResultValue) →
    Broker World Task
  | some (id, rest) => broker.mapRun id ({ · with buffer := rest })
  | none => broker

inductive Handles (service : Service World Task) (broker : Broker World Task) :
    Action → Broker World Task → List Event → Prop
  | opened {operation : Operation} {caller : CallId} {request : Request}
      (waits : broker.calls[caller]? = some { request, phase := .awaiting }) :
      Handles service broker (.start operation caller)
        ((broker.opening service operation).setPhase caller (.told (.opened broker.table.nextId)))
        [.opened broker.table.nextId operation.kind]
  | orphaned {operation : Operation} {caller : CallId}
      (gone : ∀ call, broker.calls[caller]? = some call → call.phase ≠ .awaiting) :
      Handles service broker (.start operation caller)
        ((broker.opening service operation).discard broker.table.nextId)
        [.opened broker.table.nextId operation.kind, .discarded broker.table.nextId]
  | granted {id : TransactionId} {caller : CallId} {slot : Slot}
      (live : broker.table.find? id = some slot) (usable : slot.state ≠ .cancelled) :
      Handles service broker (.getResult id caller)
        ({ broker with table := broker.table.setState id .valueReady }.tell caller .granted).1 []
  | refused {id : TransactionId} {caller : CallId} {fault : Fault}
      (denied : broker.table.access id = .error fault) :
      Handles service broker (.getResult id caller) (broker.tell caller (.refused fault)).1 []
  | cancelled {id : TransactionId} (live : broker.table.isLive id) :
      Handles service broker (.cancel id)
        { broker.signal id with table := broker.table.cancel id } [.cancelled id]
  | cancelIgnored {id : TransactionId} (gone : broker.table.isLive id = false) :
      Handles service broker (.cancel id) broker []
  | completed {id : TransactionId} (live : broker.table.isLive id) :
      Handles service broker (.complete id) { broker with table := broker.table.erase id }
        [.completed id]
  | completeIgnored {id : TransactionId} (gone : broker.table.isLive id = false) :
      Handles service broker (.complete id) broker []
  | inspected {caller : CallId} :
      Handles service broker (.inspect caller)
        (broker.tell caller (.listing broker.table.snapshot)).1 []

theorem handles_of_handle (service : Service World Task) (broker : Broker World Task)
    (action : Action) :
    Handles service broker action (broker.handle service action).1
      (broker.handle service action).2 := by
  cases action with
  | start operation caller =>
    simp only [handle, launch]
    obtain ⟨request, waits, told⟩ | ⟨gone, told⟩ :=
      (broker.opening service operation).tell_cases caller (.opened broker.table.nextId)
    · simp only [opening] at told
      rw [told]
      exact .opened waits
    · simp only [opening] at told
      rw [told]
      exact .orphaned gone
  | getResult id caller =>
    simp only [handle]
    cases granted : broker.table.access id with
    | error fault => exact .refused granted
    | ok table =>
      unfold Table.access at granted
      split at granted
      · cases granted
      · rename_i slot live
        split at granted
        · cases granted
        · rename_i usable
          cases granted
          exact .granted live usable
  | cancel id =>
    simp only [handle]
    split
    · rename_i live; exact .cancelled live
    · rename_i gone; exact .cancelIgnored (by simpa using gone)
  | complete id =>
    simp only [handle]
    split
    · rename_i live; exact .completed live
    · rename_i gone; exact .completeIgnored (by simpa using gone)
  | inspect caller => exact .inspected

theorem Handles.handle_eq {service : Service World Task} {broker after : Broker World Task}
    {action : Action} {events : List Event} (handles : Handles service broker action after events) :
    broker.handle service action = (after, events) := by
  cases handles with
  | @opened operation caller request waits =>
    obtain ⟨_, _, told⟩ | ⟨gone, _⟩ :=
      (broker.opening service operation).tell_cases caller (.opened broker.table.nextId)
    · simp only [opening] at told
      simp only [handle, launch, told]
      rfl
    · exact absurd rfl (gone _ waits)
  | @orphaned operation caller gone =>
    obtain ⟨request, waits, _⟩ | ⟨_, told⟩ :=
      (broker.opening service operation).tell_cases caller (.opened broker.table.nextId)
    · exact absurd rfl (gone _ waits)
    · simp only [opening] at told
      simp only [handle, launch, told]
      rfl
  | granted live usable => simp [handle, Table.access, live, usable]
  | refused denied => simp only [handle, denied]
  | cancelled live | completed live => simp only [handle, live, if_true]
  | cancelIgnored gone | completeIgnored gone => simp [handle, gone]
  | inspected => rfl

inductive Dispatches (service : Service World Task) (broker : Broker World Task) :
    Broker World Task → List Event → Prop
  | stopped (final : broker.shutdown = true ∨ broker.queue = [] ∧ broker.hasSenders = false) :
      Dispatches service broker broker.stop.1 [.stopped broker.table.ids]
  | handled {action : Action} {queue : List Action} {after : Broker World Task}
      {events : List Event} (up : broker.shutdown = false)
      (head : broker.queue = action :: queue)
      (handles : Handles service { broker with queue } action after events) :
      Dispatches service broker after (.handled action :: events)
  | swept {ttl : Duration} {due : Nat} (up : broker.shutdown = false) (idle : broker.queue = [])
      (running : broker.dispatcher = .running due)
      (limit : broker.config.transactionTtl = some ttl) (reached : due ≤ broker.clock) :
      Dispatches service broker (broker.sweep ttl due).1
        ((broker.table.expired ttl broker.clock).map .swept)

theorem dispatches_of_dispatch? {service : Service World Task} {broker after : Broker World Task}
    {events : List Event} (fired : broker.dispatch? service = some (after, events)) :
    (∃ due, broker.dispatcher = .running due) ∧ Dispatches service broker after events := by
  unfold dispatch? at fired
  split at fired
  · rename_i due running
    refine ⟨⟨due, running⟩, ?_⟩
    split at fired
    · rename_i down
      cases fired
      exact .stopped (.inl down)
    · rename_i up
      split at fired
      · rename_i action queue head
        cases fired
        exact .handled (by simpa using up) head (handles_of_handle service _ action)
      · rename_i idle
        split at fired
        · rename_i senders
          cases fired
          exact .stopped (.inr ⟨idle, by simpa using senders⟩)
        · split at fired
          · rename_i ttl limit
            split at fired
            · rename_i reached
              cases fired
              exact .swept (by simpa using up) idle running limit reached
            · cases fired
          · cases fired
  · cases fired

inductive Advances (service : Service World Task) (broker : Broker World Task)
    (id : TransactionId) (run : Run Task) : World → Run Task → List Event → Prop
  | proceeded {task next : Task} {world : World} (working : run.phase = .working task)
      (demand : service.step (broker.context id) run.operation broker.world task =
        .proceed world next) :
      Advances service broker id run world { run with phase := .working next } []
  | reported {task next : Task} {progress : CreateResult} {isCreate : run.operation.kind = .create}
      (working : run.phase = .working task)
      (demand : service.step (broker.context id) run.operation broker.world task =
        .report progress next isCreate) :
      Advances service broker id run broker.world
        { run with phase := .reporting (.ofProgress progress) next } []
  | dropped {task : Task} {world : World}
      {outcome : Except OperationError run.operation.kind.Returned}
      (working : run.phase = .working task)
      (demand : service.step (broker.context id) run.operation broker.world task =
        .finish world outcome)
      (cancelled : broker.isCancelled id = true) :
      Advances service broker id run world { run with phase := .ended } [.ended id]
  | finished {task : Task} {world : World}
      {outcome : Except OperationError run.operation.kind.Returned}
      (working : run.phase = .working task)
      (demand : service.step (broker.context id) run.operation broker.world task =
        .finish world outcome)
      (wanted : broker.isCancelled id = false) :
      Advances service broker id run world
        { run with phase := .delivering (.ofOutcome run.operation.kind outcome) } []
  | accepted {value : ResultValue} {task : Task} (reporting : run.phase = .reporting value task)
      (uncancelled : broker.isCancelled id = false) (wanted : broker.isWanted id = true)
      (room : run.buffer.length < broker.capacity) :
      Advances service broker id run broker.world
        { run with buffer := run.buffer ++ [value], phase := .working (service.resume true task) }
        [.wrote id value]
  | refused {value : ResultValue} {task : Task} (reporting : run.phase = .reporting value task)
      (unwanted : broker.isCancelled id = true ∨ broker.isWanted id = false) :
      Advances service broker id run broker.world
        { run with phase := .working (service.resume false task) } []
  | delivered {value : ResultValue} (delivering : run.phase = .delivering value)
      (uncancelled : broker.isCancelled id = false) (wanted : broker.isWanted id = true)
      (room : run.buffer.length < broker.capacity) :
      Advances service broker id run broker.world
        { run with buffer := run.buffer ++ [value], phase := .ended } [.wrote id value, .ended id]
  | undelivered {value : ResultValue} (delivering : run.phase = .delivering value)
      (unwanted : broker.isCancelled id = true ∨ broker.isWanted id = false) :
      Advances service broker id run broker.world { run with phase := .ended } [.ended id]

theorem write?_cases {broker after : Broker World Task} {id : TransactionId} {run : Run Task}
    {value : ResultValue} {events : List Event} {accepted : Bool}
    (written : broker.write? id run value = some ((after, events), accepted)) :
    ((broker.isCancelled id = true ∨ broker.isWanted id = false) ∧
      after = broker ∧ events = [] ∧ accepted = false) ∨
    (broker.isCancelled id = false ∧ broker.isWanted id = true ∧
      run.buffer.length < broker.capacity ∧
      after = broker.mapRun id (fun run => { run with buffer := run.buffer ++ [value] }) ∧
      events = [.wrote id value] ∧ accepted = true) := by
  unfold write? at written
  split at written
  · rename_i unwanted
    cases written
    exact .inl ⟨by simpa using unwanted, rfl, rfl, rfl⟩
  · rename_i wanted
    split at written
    · rename_i room
      cases written
      simp only [Bool.or_eq_true, Bool.not_eq_true', not_or, Bool.not_eq_true,
        Bool.not_eq_false] at wanted
      exact .inr ⟨wanted.1, wanted.2, room, rfl, rfl, rfl⟩
    · cases written

theorem advances_of_advanceRun? {service : Service World Task} {broker after : Broker World Task}
    {id : TransactionId} {events : List Event}
    (fired : broker.advanceRun? service id = some (after, events)) :
    ∃ run next world, broker.run? id = some run ∧
      Advances service broker id run world next events ∧
      after = { broker with world }.mapRun id fun _ => next := by
  have context (world : World) {run : Run Task} (found : broker.run? id = some run) :
      { broker with world }.run? id = some run := found ▸ broker.run?_congr rfl id
  simp only [advanceRun?, Option.bind_eq_bind, Option.bind_eq_some_iff] at fired
  obtain ⟨run, found, fired⟩ := fired
  refine ⟨run, ?_⟩
  split at fired
  · rename_i task working
    split at fired
    · cases fired
    · rename_i demand
      cases fired
      exact ⟨_, _, found, .proceeded working demand, mapRun_eq_const _ (context _ found) _⟩
    · rename_i demand
      cases fired
      exact ⟨_, _, found, .reported working demand, mapRun_eq_const _ found _⟩
    · rename_i demand
      split at fired
      · rename_i cancelled
        cases fired
        exact ⟨_, _, found, .dropped working demand cancelled,
          mapRun_eq_const _ (context _ found) _⟩
      · rename_i wanted
        cases fired
        exact ⟨_, _, found, .finished working demand (by simpa using wanted),
          mapRun_eq_const _ (context _ found) _⟩
  · rename_i value task reporting
    obtain ⟨⟨⟨middle, written⟩, accepted⟩, wrote, fired⟩ :=
      Option.bind_eq_some_iff.mp fired
    cases fired
    obtain ⟨unwanted, rfl, rfl, rfl⟩ | ⟨uncancelled, wanted, room, rfl, rfl, rfl⟩ :=
      write?_cases wrote
    · exact ⟨_, _, found, .refused reporting unwanted, mapRun_eq_const _ found _⟩
    · refine ⟨_, _, found, .accepted reporting uncancelled wanted room, ?_⟩
      rw [setRunPhase, mapRun_mapRun]
      exact mapRun_eq_const _ found _
  · rename_i value delivering
    obtain ⟨⟨⟨middle, written⟩, accepted⟩, wrote, fired⟩ :=
      Option.bind_eq_some_iff.mp fired
    cases fired
    obtain ⟨unwanted, rfl, rfl, rfl⟩ | ⟨uncancelled, wanted, room, rfl, rfl, rfl⟩ :=
      write?_cases wrote
    · exact ⟨_, _, found, .undelivered delivering unwanted, mapRun_eq_const _ found _⟩
    · refine ⟨_, _, found, .delivered delivering uncancelled wanted room, ?_⟩
      rw [setRunPhase, mapRun_mapRun]
      exact mapRun_eq_const _ found _
  · cases fired

inductive Progresses (broker : Broker World Task) (id : CallId) :
    Call → Call.Phase → List Action → Option (TransactionId × List ResultValue) →
      List Event → Prop
  | preempted {request : Request} {phase : Call.Phase} (down : broker.shutdown = true)
      (open_ : phase = .submitting ∨ phase = .awaiting ∨ ∃ reply, phase = .told reply) :
      Progresses broker id { request, phase } (.answered (.error .cancelled)) [] none
        [.answered id (.error .cancelled)]
  | closed {request : Request} (up : broker.shutdown = false)
      (gone : broker.dispatcher.accepts = false) :
      Progresses broker id { request, phase := .submitting } (.answered (.error .dispatcherClosed))
        [] none [.answered id (.error .dispatcherClosed)]
  | cancelQueued {transaction : TransactionId} (up : broker.shutdown = false)
      (accepts : broker.dispatcher.accepts = true) (room : broker.hasRoom = true) :
      Progresses broker id { request := .cancel transaction, phase := .submitting }
        (.answered (.ok .cancelRequested)) [.cancel transaction] none
        [.accepted id (.cancel transaction), .answered id (.ok .cancelRequested)]
  | queued {request : Request} (up : broker.shutdown = false)
      (accepts : broker.dispatcher.accepts = true) (room : broker.hasRoom = true)
      (replied : ∀ transaction, request ≠ .cancel transaction) :
      Progresses broker id { request, phase := .submitting } .awaiting [request.action id] none
        [.accepted id (request.action id)]
  | learned {request : Request} {reply : DispatcherReply} {outcome : Outcome}
      (up : broker.shutdown = false) (known : reply.outcome? = some outcome) :
      Progresses broker id { request, phase := .told reply } (.answered outcome) [] none
        [.answered id outcome]
  | opened {request : Request} (up : broker.shutdown = false) :
      Progresses broker id { request, phase := .told .granted } .reading [] none []
  | stranded {kind : Operation.Kind} {transaction : TransactionId} {run : Run Task}
      (found : broker.run? transaction = some run)
      (closed : broker.shutdown = true ∨ run.cancelled = true ∨
        run.buffer = [] ∧ run.hasEnded = true) :
      Progresses broker id { request := .collect kind transaction, phase := .reading }
        (.answered (.error .cancelled)) [] none [.answered id (.error .cancelled)]
  | tookProgress {kind : Operation.Kind} {transaction : TransactionId} {run : Run Task}
      {value : ResultValue} {rest : List ResultValue}
      (found : broker.run? transaction = some run) (up : broker.shutdown = false)
      (uncancelled : run.cancelled = false) (ready : run.buffer = value :: rest)
      (keeps : (kind.judge transaction value).releases = false) :
      Progresses broker id { request := .collect kind transaction, phase := .reading }
        (.answered (kind.judge transaction value).outcome) [] (some (transaction, rest))
        [.took id transaction value, .answered id (kind.judge transaction value).outcome]
  | tookLast {kind : Operation.Kind} {transaction : TransactionId} {run : Run Task}
      {value : ResultValue} {rest : List ResultValue}
      (found : broker.run? transaction = some run) (up : broker.shutdown = false)
      (uncancelled : run.cancelled = false) (ready : run.buffer = value :: rest)
      (releases : (kind.judge transaction value).releases = true) :
      Progresses broker id { request := .collect kind transaction, phase := .reading }
        (.completing (kind.judge transaction value).outcome) [] (some (transaction, rest))
        [.took id transaction value]
  | unreleased {kind : Operation.Kind} {transaction : TransactionId} {outcome : Outcome}
      (closed : broker.shutdown = true ∨ broker.dispatcher.accepts = false) :
      Progresses broker id { request := .collect kind transaction, phase := .completing outcome }
        (.answered outcome) [] none [.answered id outcome]
  | released {kind : Operation.Kind} {transaction : TransactionId} {outcome : Outcome}
      (up : broker.shutdown = false) (accepts : broker.dispatcher.accepts = true)
      (room : broker.hasRoom = true) :
      Progresses broker id { request := .collect kind transaction, phase := .completing outcome }
        (.answered outcome) [.complete transaction] none
        [.accepted id (.complete transaction), .answered id outcome]

def moved (broker : Broker World Task) (id : CallId) (phase : Call.Phase) (actions : List Action)
    (taken : Option (TransactionId × List ResultValue)) : Broker World Task :=
  { broker.taking taken with queue := broker.queue ++ actions }.setPhase id phase

theorem moved_still (broker : Broker World Task) (id : CallId) (phase : Call.Phase) :
    broker.moved id phase [] none = broker.setPhase id phase := by
  simp [moved, taking]

theorem moved_taking (broker : Broker World Task) (id : CallId) (phase : Call.Phase)
    (transaction : TransactionId) (rest : List ResultValue) :
    broker.moved id phase [] (some (transaction, rest)) =
      (broker.mapRun transaction ({ · with buffer := rest })).setPhase id phase := by
  cases transaction <;> simp [moved, taking, mapRun]

theorem progresses_of_submit? {broker after : Broker World Task} {id : CallId}
    {request : Request} {events : List Event}
    (fired : broker.submit? id request = some (after, events)) :
    ∃ phase actions,
      Progresses broker id { request, phase := .submitting } phase actions none events ∧
      after = broker.moved id phase actions none := by
  unfold submit? at fired
  split at fired
  · rename_i down
    cases fired
    exact ⟨_, _, .preempted down (.inl rfl), (moved_still ..).symm⟩
  · rename_i up
    split at fired
    · rename_i gone
      cases fired
      exact ⟨_, _, .closed (by simpa using up) (by simpa using gone), (moved_still ..).symm⟩
    · rename_i accepts
      split at fired
      · rename_i room
        split at fired
        · cases fired
          exact ⟨_, _, .cancelQueued (by simpa using up) (by simpa using accepts) room, rfl⟩
        · rename_i replied
          cases fired
          exact ⟨_, _, .queued (by simpa using up) (by simpa using accepts) room replied, rfl⟩
      · cases fired

theorem progresses_of_take? {broker after : Broker World Task} {id : CallId}
    {kind : Operation.Kind} {transaction : TransactionId} {events : List Event}
    (fired : broker.take? id kind transaction = some (after, events)) :
    ∃ phase taken,
      Progresses broker id { request := .collect kind transaction, phase := .reading }
        phase [] taken events ∧ after = broker.moved id phase [] taken := by
  simp only [take?, Option.bind_eq_bind, Option.bind_eq_some_iff] at fired
  obtain ⟨run, found, fired⟩ := fired
  split at fired
  · rename_i closed
    cases fired
    simp only [Bool.or_eq_true] at closed
    exact ⟨_, _, .stranded found (closed.imp_right .inl), (moved_still ..).symm⟩
  · rename_i under
    simp only [Bool.or_eq_true, not_or, Bool.not_eq_true] at under
    split at fired
    · rename_i value rest ready
      split at fired
      · rename_i releases
        cases fired
        exact ⟨_, _, .tookLast found under.1 under.2 ready releases, (moved_taking ..).symm⟩
      · rename_i keeps
        cases fired
        exact ⟨_, _, .tookProgress found under.1 under.2 ready (by simpa using keeps),
          (moved_taking ..).symm⟩
    · rename_i empty
      split at fired
      · rename_i ended
        cases fired
        exact ⟨_, _, .stranded found (.inr (.inr ⟨empty, ended⟩)), (moved_still ..).symm⟩
      · cases fired

theorem progresses_of_complete? {broker after : Broker World Task} {id : CallId}
    (kind : Operation.Kind) {transaction : TransactionId} {outcome : Outcome} {events : List Event}
    (fired : broker.complete? id transaction outcome = some (after, events)) :
    ∃ phase actions, Progresses broker id
        { request := .collect kind transaction, phase := .completing outcome } phase actions none
        events ∧ after = broker.moved id phase actions none := by
  unfold complete? at fired
  split at fired
  · rename_i closed
    cases fired
    exact ⟨_, _, .unreleased (by simpa using closed), (moved_still ..).symm⟩
  · rename_i accepts
    simp only [Bool.or_eq_true, Bool.not_eq_true', not_or, Bool.not_eq_true,
      Bool.not_eq_false] at accepts
    split at fired
    · rename_i room
      cases fired
      exact ⟨_, _, .released accepts.1 accepts.2 room, rfl⟩
    · cases fired

theorem progresses_of_advanceCall? {broker after : Broker World Task} {id : CallId}
    {events : List Event} (fired : broker.advanceCall? id = some (after, events)) :
    ∃ call phase actions taken, broker.calls[id]? = some call ∧
      Progresses broker id call phase actions taken events ∧
      after = broker.moved id phase actions taken := by
  simp only [advanceCall?, Option.bind_eq_bind, Option.bind_eq_some_iff] at fired
  obtain ⟨⟨request, phase⟩, found, fired⟩ := fired
  refine ⟨{ request, phase }, ?_⟩
  cases phase with
  | submitting =>
    obtain ⟨_, _, progresses, rfl⟩ := progresses_of_submit? fired
    exact ⟨_, _, _, found, progresses, rfl⟩
  | awaiting =>
    dsimp only at fired
    split at fired
    · rename_i down
      cases fired
      exact ⟨_, _, _, found, .preempted down (.inr (.inl rfl)), (moved_still ..).symm⟩
    · cases fired
  | told reply =>
    dsimp only at fired
    split at fired
    · rename_i down
      cases fired
      exact ⟨_, _, _, found, .preempted down (.inr (.inr ⟨_, rfl⟩)), (moved_still ..).symm⟩
    · rename_i up
      have up : broker.shutdown = false := by simpa using up
      cases reply with
      | granted => cases fired; exact ⟨_, _, _, found, .opened up, (moved_still ..).symm⟩
      | opened | refused | listing =>
        cases fired; exact ⟨_, _, _, found, .learned up rfl, (moved_still ..).symm⟩
  | reading =>
    cases request with
    | collect kind transaction =>
      obtain ⟨_, _, progresses, rfl⟩ := progresses_of_take? fired
      exact ⟨_, _, _, found, progresses, rfl⟩
    | initiate | cancel | listTransactions => cases fired
  | completing outcome =>
    cases request with
    | collect kind transaction =>
      obtain ⟨_, _, progresses, rfl⟩ := progresses_of_complete? kind fired
      exact ⟨_, _, _, found, progresses, rfl⟩
    | initiate | cancel | listTransactions => cases fired
  | answered | abandoned => cases fired

end Broker

end InstanceBroker
