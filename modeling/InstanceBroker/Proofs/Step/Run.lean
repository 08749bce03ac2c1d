import InstanceBroker.Proofs.Trace

namespace InstanceBroker

variable {World Task : Type}

namespace Event

def taken? (id : TransactionId) : Event → Option ResultValue
  | .took _ transaction value => if transaction = id then some value else none
  | _ => none

def written? (id : TransactionId) : Event → Option ResultValue
  | .wrote transaction value => if transaction = id then some value else none
  | _ => none

def call? : Event → Option CallId
  | .accepted call _ | .took call _ _ | .answered call _ => some call
  | _ => none

def Signals (id : TransactionId) : Event → Prop
  | .cancelled transaction | .swept transaction | .discarded transaction => transaction = id
  | .stopped transactions => id ∈ transactions
  | _ => False

end Event

def Action.caller? : Action → Option CallId
  | .start _ caller | .getResult _ caller | .inspect caller => some caller
  | .cancel _ | .complete _ => none

namespace Broker

variable {service : Service World Task} {broker after : Broker World Task}

def reply? (broker : Broker World Task) : Action → Option DispatcherReply
  | .start _ _ => some (.opened broker.table.nextId)
  | .getResult id _ => match broker.table.access id with
    | .ok _ => some .granted
    | .error fault => some (.refused fault)
  | .inspect _ => some (.listing broker.table.snapshot)
  | .cancel _ | .complete _ => none

theorem reply?_getResult (id : TransactionId) (caller : CallId) :
    (broker.table.find? id = none ∧
      broker.reply? (.getResult id caller) = some (.refused (.unknownTransaction id))) ∨
    ∃ slot, broker.table.find? id = some slot ∧
      (slot.state = .cancelled ∧
          broker.reply? (.getResult id caller) = some (.refused .cancelled) ∨
        slot.state ≠ .cancelled ∧ broker.reply? (.getResult id caller) = some .granted) := by
  simp only [reply?, Table.access]
  cases live : broker.table.find? id with
  | none => exact .inl ⟨rfl, rfl⟩
  | some slot =>
    refine .inr ⟨slot, rfl, ?_⟩
    by_cases cancelled : slot.state = .cancelled
    · exact .inl ⟨cancelled, by simp [cancelled]⟩
    · exact .inr ⟨cancelled, by simp [cancelled]⟩

theorem signal_frame (id : TransactionId) :
    broker.signal id = { broker with runs := (broker.signal id).runs } ∧
      (broker.signal id).runs.length = broker.runs.length := by
  cases id with
  | zero => exact ⟨rfl, rfl⟩
  | succ n => exact ⟨rfl, by simp [signal, mapRun]⟩

theorem Handles.frame {action : Action} {events : List Event}
    (handles : Handles service broker action after events) :
    after = { broker with table := after.table, runs := after.runs, calls := after.calls } := by
  cases handles with
  | opened | cancelIgnored | completed | completeIgnored => rfl
  | orphaned => rw [discard, (signal_frame _).1]; rfl
  | granted | refused | inspected => rw [tell_frame]
  | cancelled => rw [(signal_frame _).1]

theorem sweep_frame (ttl : Duration) (due : Nat) :
    (broker.sweep ttl due).1 = { broker with
      table := (broker.sweep ttl due).1.table
      runs := (broker.sweep ttl due).1.runs
      dispatcher := .running (broker.sweepAfter due) } := by
  simp only [sweep, foldl_discard]
  rw [(broker.foldl_signal_frame _).1]

theorem stop_frame :
    broker.stop.1 = { broker with
      table := broker.table.clear, runs := broker.stop.1.runs, dispatcher := .ended } := by
  simp only [stop]
  rw [(broker.foldl_signal_frame _).1]

theorem moved_frame (id : CallId) (phase : Call.Phase) (actions : List Action)
    (taken : Option (TransactionId × List ResultValue)) :
    broker.moved id phase actions taken = { broker with
      queue := broker.queue ++ actions
      runs := (broker.moved id phase actions taken).runs
      calls := (broker.moved id phase actions taken).calls } ∧
    (broker.moved id phase actions taken).runs.length = broker.runs.length ∧
    (broker.moved id phase actions taken).calls = (broker.setPhase id phase).calls := by
  cases taken with
  | none => exact ⟨rfl, rfl, rfl⟩
  | some taken =>
    obtain ⟨transaction, rest⟩ := taken
    cases transaction with
    | zero => exact ⟨rfl, rfl, rfl⟩
    | succ n => exact ⟨rfl, by simp [moved, taking, mapRun, setPhase], rfl⟩

theorem advanced_frame (world : World) (id : TransactionId) (run : Run Task) :
    ({ broker with world }.mapRun id fun _ => run) =
      { broker with world, runs := ({ broker with world }.mapRun id fun _ => run).runs } ∧
    ({ broker with world }.mapRun id fun _ => run).runs.length = broker.runs.length := by
  cases id with
  | zero => exact ⟨rfl, rfl⟩
  | succ n => exact ⟨rfl, by simp [mapRun]⟩

def opened (service : Service World Task) (broker : Broker World Task) (operation : Operation) :
    Run Task :=
  { operation, phase := if broker.thrownAway.contains broker.table.nextId then .ended
    else .working (service.enter broker.table.nextId operation) }

theorem run?_opening (operation : Operation) (id : TransactionId) :
    (broker.opening service operation).run? id =
      if id = broker.runs.length + 1 then some (broker.opened service operation)
      else broker.run? id := by
  cases id with
  | zero => rfl
  | succ n =>
    have runs : (broker.opening service operation).runs =
        broker.runs ++ [broker.opened service operation] := rfl
    simp only [run?, runs, List.getElem?_append, Nat.succ_eq_add_one, Nat.add_right_cancel_iff]
    by_cases old : n < broker.runs.length
    · rw [if_pos old, if_neg (by omega)]
    · by_cases last : n = broker.runs.length
      · simp [last]
      · have beyond : broker.runs.length ≤ n := by omega
        rw [if_neg old, if_neg last, List.getElem?_eq_none beyond,
          List.getElem?_eq_none (by simp; omega)]

inductive RunStep (service : Service World Task) (broker : Broker World Task)
    (id : TransactionId) (run : Run Task) : Turn World → List Event → Run Task → Prop
  | kept {turn : Turn World} {events : List Event} (other : turn ≠ .move (.run id))
      (untaken : events.filterMap (·.taken? id) = [])
      (unwritten : events.filterMap (·.written? id) = [])
      (unsignalled : ∀ event ∈ events, ¬ event.Signals id) :
      RunStep service broker id run turn events run
  | advanced {world : World} {next : Run Task} {events : List Event}
      (advances : Advances service broker id run world next events) :
      RunStep service broker id run (.move (.run id)) events next
  | read {call : CallId} {kind : Operation.Kind} {value : ResultValue} {rest : List ResultValue}
      {events : List Event}
      (reader : broker.calls[call]? = some { request := .collect kind id, phase := .reading })
      (up : broker.shutdown = false) (uncancelled : run.cancelled = false)
      (ready : run.buffer = value :: rest) (taken : events.filterMap (·.taken? id) = [value])
      (unwritten : events.filterMap (·.written? id) = []) :
      RunStep service broker id run (.move (.call call)) events { run with buffer := rest }
  | signalled {events : List Event} (cause : ∃ event ∈ events, event.Signals id)
      (untaken : events.filterMap (·.taken? id) = [])
      (unwritten : events.filterMap (·.written? id) = []) :
      RunStep service broker id run (.move .dispatcher) events { run with cancelled := true }

theorem Handles.untaken {action : Action} {events : List Event}
    (handles : Handles service broker action after events) (id : TransactionId) :
    events.filterMap (·.taken? id) = [] ∧ events.filterMap (·.written? id) = [] := by
  cases handles <;> exact ⟨rfl, rfl⟩

theorem Handles.run {action : Action} {events : List Event} {id : TransactionId} {run : Run Task}
    (handles : Handles service broker action after events) (found : broker.run? id = some run) :
    (after.run? id = some run ∧ ∀ event ∈ events, ¬ event.Signals id) ∨
      after.run? id = some { run with cancelled := true } ∧
        ∃ event ∈ events, event.Signals id := by
  have known : id ≤ broker.runs.length := ((broker.run?_isSome_iff id).mp (by rw [found]; rfl)).2
  have old : id ≠ broker.runs.length + 1 := Nat.ne_of_lt (Nat.lt_succ_of_le known)
  cases handles with
  | opened =>
    left
    rw [run?_setPhase, run?_opening, if_neg old, found]
    exact ⟨rfl, by simp [Event.Signals]⟩
  | orphaned =>
    rw [run?_discard]
    by_cases equal : id = broker.table.nextId
    · right
      refine ⟨?_, _, List.mem_cons_of_mem _ List.mem_cons_self, equal.symm⟩
      rw [if_pos equal, ← equal, run?_opening, if_neg old, found]
      rfl
    · left
      rw [if_neg equal, run?_opening, if_neg old, found]
      exact ⟨rfl, by simp [Event.Signals, Ne.symm equal]⟩
  | granted | refused | inspected =>
    left
    rw [tell_frame]
    exact ⟨found ▸ broker.run?_congr rfl id, by simp⟩
  | @cancelled cancelled live =>
    rw [run?_withTable, run?_signal]
    by_cases equal : id = cancelled
    · right
      refine ⟨?_, _, List.mem_cons_self, equal.symm⟩
      rw [if_pos equal, ← equal, found]
      rfl
    · left
      rw [if_neg equal, found]
      exact ⟨rfl, by simp [Event.Signals, Ne.symm equal]⟩
  | cancelIgnored | completeIgnored => exact .inl ⟨found, by simp⟩
  | completed => exact .inl ⟨found ▸ broker.run?_congr rfl id, by simp [Event.Signals]⟩

theorem Dispatches.run_step {events : List Event} {id : TransactionId} {run : Run Task}
    (dispatches : Dispatches service broker after events) (found : broker.run? id = some run) :
    ∃ next, after.run? id = some next ∧
      RunStep service broker id run (.move .dispatcher) events next := by
  have other : (Turn.move .dispatcher : Turn World) ≠ .move (.run id) := by simp
  cases dispatches with
  | stopped =>
    rw [run?_stop]
    by_cases live : id ∈ broker.table.ids
    · rw [if_pos live, found]
      exact ⟨_, rfl, .signalled ⟨_, List.mem_cons_self, live⟩ rfl rfl⟩
    · rw [if_neg live]
      exact ⟨run, found, .kept other rfl rfl (by simpa [Event.Signals] using live)⟩
  | @handled action queue _ later up head handles =>
    have quiet := handles.untaken id
    have known : { broker with queue }.run? id = some run := found ▸ broker.run?_congr rfl id
    rcases handles.run known with ⟨same, unsignalled⟩ | ⟨cancelled, event, among, signals⟩
    · refine ⟨run, same, .kept other quiet.1 quiet.2 ?_⟩
      exact List.forall_mem_cons.mpr ⟨nofun, unsignalled⟩
    · exact ⟨_, cancelled, .signalled ⟨event, List.mem_cons_of_mem _ among, signals⟩
        quiet.1 quiet.2⟩
  | @swept ttl due _ _ _ _ _ =>
    have untaken : ((broker.table.expired ttl broker.clock).map Event.swept).filterMap
        (·.taken? id) = [] := List.filterMap_eq_nil_iff.mpr (by simp [Event.taken?])
    have unwritten : ((broker.table.expired ttl broker.clock).map Event.swept).filterMap
        (·.written? id) = [] := List.filterMap_eq_nil_iff.mpr (by simp [Event.written?])
    rw [run?_sweep]
    by_cases expired : id ∈ broker.table.expired ttl broker.clock
    · rw [if_pos expired, found]
      exact ⟨_, rfl, .signalled ⟨_, List.mem_map_of_mem expired, rfl⟩ untaken unwritten⟩
    · rw [if_neg expired]
      refine ⟨run, found, .kept other untaken unwritten ?_⟩
      intro event among signals
      obtain ⟨gone, old, rfl⟩ := List.mem_map.mp among
      exact expired (signals ▸ old)

theorem Advances.operation_eq {id : TransactionId} {run next : Run Task} {world : World}
    {events : List Event} (advances : Advances service broker id run world next events) :
    next.operation = run.operation := by
  cases advances <;> rfl

theorem RunStep.operation_eq {id : TransactionId} {run next : Run Task} {turn : Turn World}
    {events : List Event} (step : RunStep service broker id run turn events next) :
    next.operation = run.operation := by
  cases step with
  | kept | read | signalled => rfl
  | advanced advances => exact advances.operation_eq

theorem Advances.run_step {id other : TransactionId} {run moving next : Run Task} {world : World}
    {events : List Event} (moves : broker.run? other = some moving)
    (advances : Advances service broker other moving world next events)
    (found : broker.run? id = some run) :
    ∃ result, ({ broker with world }.mapRun other fun _ => next).run? id = some result ∧
      RunStep service broker id run (.move (.run other)) events result := by
  have known : { broker with world }.run? id = some run := found ▸ broker.run?_congr rfl id
  rw [run?_mapRun]
  by_cases equal : id = other
  · subst equal
    have same : moving = run := Option.some.inj (moves.symm.trans found)
    subst same
    exact ⟨next, by rw [if_pos rfl, known]; rfl, .advanced advances⟩
  · have apart : other ≠ id := Ne.symm equal
    refine ⟨run, by rw [if_neg equal, known], .kept (by simpa using apart) ?_ ?_ ?_⟩
    all_goals cases advances <;> simp [Event.taken?, Event.written?, Event.Signals, apart]

theorem run?_moved (call : CallId) (phase : Call.Phase) (actions : List Action)
    (taken : Option (TransactionId × List ResultValue)) (id : TransactionId) :
    (broker.moved call phase actions taken).run? id = (broker.taking taken).run? id :=
  (broker.taking taken).run?_congr rfl id

theorem Progresses.run_step {id : TransactionId} {run : Run Task} {caller : CallId} {call : Call}
    {phase : Call.Phase} {actions : List Action}
    {taken : Option (TransactionId × List ResultValue)} {events : List Event}
    (asks : broker.calls[caller]? = some call)
    (progresses : Progresses broker caller call phase actions taken events)
    (found : broker.run? id = some run) :
    ∃ next, (broker.moved caller phase actions taken).run? id = some next ∧
      RunStep service broker id run (.move (.call caller)) events next := by
  have other : (Turn.move (.call caller) : Turn World) ≠ .move (.run id) := by simp
  rw [run?_moved]
  cases progresses with
  | preempted | closed | cancelQueued | queued | learned | opened | stranded | unreleased
  | released => exact ⟨run, found, .kept other rfl rfl (by simp [Event.Signals])⟩
  | @tookProgress kind transaction reading value rest here up uncancelled ready keeps
  | @tookLast kind transaction reading value rest here up uncancelled ready releases =>
    simp only [taking, run?_mapRun]
    by_cases equal : id = transaction
    · subst equal
      have same : reading = run := Option.some.inj (here.symm.trans found)
      subst same
      refine ⟨{ reading with buffer := rest }, by rw [if_pos rfl, found]; rfl,
        .read asks up uncancelled ready ?_ ?_⟩
      all_goals simp [Event.taken?, Event.written?]
    · have apart : transaction ≠ id := Ne.symm equal
      refine ⟨run, by rw [if_neg equal, found], .kept other ?_ ?_ ?_⟩
      all_goals simp [Event.taken?, Event.written?, Event.Signals, apart]

theorem run?_receive (input : Input) (id : TransactionId) :
    (broker.receive input).run? id = broker.run? id := by
  rw [receive_frame]
  exact broker.run?_congr rfl id

theorem run_step {turn : Turn World} {events : List Event} {id : TransactionId} {run : Run Task}
    (taken : broker.turn? service turn = some (after, events))
    (found : broker.run? id = some run) :
    ∃ next, after.run? id = some next ∧ RunStep service broker id run turn events next := by
  cases turns_of_turn? taken with
  | dispatched running dispatches => exact dispatches.run_step found
  | advanced moves advances => exact advances.run_step moves found
  | progressed asks progresses => exact progresses.run_step asks found
  | received => exact ⟨run, by rw [run?_receive, found], .kept (by simp) rfl rfl (by simp)⟩
  | changed =>
    exact ⟨run, found ▸ broker.run?_congr rfl id, .kept (by simp) rfl rfl (by simp)⟩

inductive RunBegun (service : Service World Task) (broker after : Broker World Task)
    (id : TransactionId) : Turn World → Prop
  | missing {turn : Turn World} (missing : after.run? id = none) :
      RunBegun service broker after id turn
  | opened {operation : Operation} {caller : CallId} {queue : List Action}
      (head : broker.queue = .start operation caller :: queue) (next : id = broker.table.nextId)
      (begun : after.run? id = some (broker.opened service operation))
      (live : after.table.isLive id) : RunBegun service broker after id (.move .dispatcher)
  | orphaned {operation : Operation} {caller : CallId} {queue : List Action}
      (head : broker.queue = .start operation caller :: queue) (next : id = broker.table.nextId)
      (begun : after.run? id = some { broker.opened service operation with cancelled := true }) :
      RunBegun service broker after id (.move .dispatcher)

theorem Handles.run_begun {action : Action} {events : List Event} {id : TransactionId}
    (handles : Handles service broker action after events)
    (numbered : broker.table.nextId = broker.runs.length + 1) (missing : broker.run? id = none) :
    after.run? id = none ∨ ∃ operation caller, action = .start operation caller ∧
      id = broker.table.nextId ∧
      (after.run? id = some (broker.opened service operation) ∧ after.table.isLive id ∨
        after.run? id = some { broker.opened service operation with cancelled := true }) := by
  cases handles with
  | @opened operation caller request waits =>
    rw [run?_setPhase, run?_opening, ← numbered]
    by_cases next : id = broker.table.nextId
    · subst next
      refine .inr ⟨_, _, rfl, rfl, .inl ⟨by rw [if_pos rfl], ?_⟩⟩
      rw [Table.isLive_iff]
      simp [setPhase, opening]
    · exact .inl (by rw [if_neg next, missing])
  | @orphaned operation caller gone =>
    rw [run?_discard, run?_opening, run?_opening, ← numbered, if_pos rfl]
    by_cases next : id = broker.table.nextId
    · subst next
      refine .inr ⟨_, _, rfl, rfl, .inr ?_⟩
      rw [if_pos rfl]
      rfl
    · exact .inl (by rw [if_neg next, if_neg next, missing])
  | granted | refused | inspected =>
    rw [tell_frame]
    exact .inl (missing ▸ broker.run?_congr rfl id)
  | @cancelled cancelled live =>
    rw [run?_withTable, run?_signal]
    by_cases equal : id = cancelled
    · exact .inl (by rw [if_pos equal, ← equal, missing]; rfl)
    · exact .inl (by rw [if_neg equal, missing])
  | cancelIgnored | completeIgnored => exact .inl missing
  | completed => exact .inl (missing ▸ broker.run?_congr rfl id)

theorem run_begun {turn : Turn World} {events : List Event} {id : TransactionId}
    (taken : broker.turn? service turn = some (after, events))
    (numbered : broker.table.nextId = broker.runs.length + 1) (missing : broker.run? id = none) :
    events.filterMap (·.taken? id) = [] ∧ events.filterMap (·.written? id) = [] ∧
      RunBegun service broker after id turn := by
  cases turns_of_turn? taken with
  | dispatched running dispatches =>
    cases dispatches with
    | stopped =>
      refine ⟨rfl, rfl, .missing ?_⟩
      rw [run?_stop, missing]
      exact ite_self none
    | @handled action queue _ later up head handles =>
      have quiet := handles.untaken id
      have absent : { broker with queue }.run? id = none := missing ▸ broker.run?_congr rfl id
      refine ⟨quiet.1, quiet.2, ?_⟩
      rcases handles.run_begun numbered absent with
        none | ⟨operation, caller, rfl, next, ⟨begun, live⟩ | begun⟩
      · exact .missing none
      · exact .opened head next begun live
      · exact .orphaned head next begun
    | swept =>
      refine ⟨?_, ?_, .missing ?_⟩
      · exact List.filterMap_eq_nil_iff.mpr (by simp [Event.taken?])
      · exact List.filterMap_eq_nil_iff.mpr (by simp [Event.written?])
      · rw [run?_sweep, missing]
        exact ite_self none
  | @advanced other moving next world _ moves advances =>
    have apart : other ≠ id := by rintro rfl; rw [missing] at moves; cases moves
    refine ⟨?_, ?_, .missing ?_⟩
    · cases advances <;> simp [Event.taken?]
    · cases advances <;> simp [Event.written?, apart]
    · rw [run?_mapRun, if_neg (Ne.symm apart)]
      exact missing ▸ broker.run?_congr rfl id
  | @progressed caller call phase actions rest _ asks progresses =>
    cases progresses with
    | preempted | closed | cancelQueued | queued | learned | opened | stranded | unreleased
    | released => exact ⟨rfl, rfl, .missing (by rw [run?_moved]; exact missing)⟩
    | @tookProgress kind transaction reading value rest here
    | @tookLast kind transaction reading value rest here =>
      have apart : transaction ≠ id := by rintro rfl; rw [missing] at here; cases here
      refine ⟨by simp [Event.taken?, apart], by simp [Event.written?], .missing ?_⟩
      rw [run?_moved]
      simp only [taking, run?_mapRun]
      rw [if_neg (Ne.symm apart), missing]
  | received => exact ⟨rfl, rfl, .missing (by rw [run?_receive, missing])⟩
  | changed => exact ⟨rfl, rfl, .missing (missing ▸ broker.run?_congr rfl id)⟩

section Own

variable {id : TransactionId} {run : Run Task} {task later : Task} {world : World}

theorem setRunPhase_own (found : broker.run? id = some run) (world : World)
    (phase : Run.Phase Task) :
    ({ broker with world }.setRunPhase id phase).run? id = some { run with phase } ∧
      ({ broker with world }.setRunPhase id phase).world = world := by
  have still : { broker with world }.run? id = some run := found ▸ broker.run?_congr rfl id
  constructor
  · rw [setRunPhase, run?_mapRun, if_pos rfl, still]
    rfl
  · cases id <;> rfl

theorem turn?_of_proceed (found : broker.run? id = some run) (working : run.phase = .working task)
    (demands : service.step (broker.context id) run.operation broker.world task =
      .proceed world later) :
    ∃ after, broker.turn? service (.move (.run id)) = some (after, []) ∧
      after.run? id = some { run with phase := .working later } ∧ after.world = world := by
  have demands : service.step { id, now := broker.clock, cancelled := broker.isCancelled id }
    run.operation broker.world task = .proceed world later := demands
  refine ⟨{ broker with world }.setRunPhase id (.working later), ?_, setRunPhase_own found ..⟩
  simp only [turn?, fire?, advanceRun?, found, Option.bind_eq_bind, Option.bind_some, working,
    demands]

theorem turn?_of_finish (found : broker.run? id = some run) (working : run.phase = .working task)
    (cancelled : broker.isCancelled id = true)
    {outcome : Except OperationError run.operation.kind.Returned}
    (demands : service.step (broker.context id) run.operation broker.world task =
      .finish world outcome) :
    ∃ after, broker.turn? service (.move (.run id)) = some (after, [.ended id]) ∧
      after.run? id = some { run with phase := .ended } ∧ after.world = world := by
  have demands : service.step { id, now := broker.clock, cancelled := broker.isCancelled id }
    run.operation broker.world task = .finish world outcome := demands
  refine ⟨{ broker with world }.setRunPhase id .ended, ?_, setRunPhase_own found ..⟩
  simp only [turn?, fire?, advanceRun?, found, Option.bind_eq_bind, Option.bind_some, working,
    demands]
  rw [if_pos cancelled]

end Own

end Broker

end InstanceBroker
