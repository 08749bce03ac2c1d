import InstanceBroker.Proofs.Foreclosure

namespace InstanceBroker

variable {World Task : Type} {service : Service World Task}

def Call.Cut (call : Call) : Prop :=
  match call.phase with
  | .completing _ => False
  | .answered outcome => outcome = .error .cancelled
  | .submitting | .awaiting | .told _ | .reading | .abandoned => True

namespace Broker

variable {broker after : Broker World Task} {turn : Turn World} {events : List Event}

theorem unqueued_step (taken : broker.turn? service turn = some (after, events))
    (down : broker.shutdown = true) : acceptedIn events = [] ∧ handledIn events = [] := by
  cases turns_of_turn? taken with
  | dispatched running dispatches =>
    cases dispatches with
    | stopped => exact ⟨rfl, rfl⟩
    | handled up | swept up =>
      rw [down] at up
      cases up
  | advanced moves advances => exact advances.unqueued
  | progressed asks progresses =>
    obtain ⟨accepted, unhandled⟩ := progresses.queues
    exact ⟨accepted.trans (progresses.unqueued (.inl down)), unhandled⟩
  | received | changed => exact ⟨rfl, rfl⟩

theorem cut_step (down : broker.shutdown = true) {caller : CallId} {request : Request}
    {phase next : Call.Phase} (cut : ({ request, phase } : Call).Cut)
    (step : CallStep broker after caller { request, phase } turn events next) :
    ({ request, phase := next } : Call).Cut := by
  cases step with
  | kept => exact cut
  | told _ up =>
    rw [down] at up
    cases up
  | progressed progresses =>
    cases progresses with
    | preempted | stranded => rfl
    | closed up | cancelQueued up | queued up | learned up | opened up | released up =>
      rw [down] at up
      cases up
    | tookProgress _ up | tookLast _ up =>
      rw [down] at up
      cases up
    | unreleased => exact cut.elim
  | abandoned => trivial

theorem fails_of_down (formed : broker.WellFormed) (down : broker.shutdown = true)
    {caller : CallId} {call : Call} (found : broker.calls[caller]? = some call)
    (pending : call.isPending = true) (cut : call.Cut) :
    ∃ after, broker.turn? service (.move (.call caller)) =
      some (after, [.answered caller (.error .cancelled)]) := by
  have sound := formed.sound caller call found
  obtain ⟨request, phase⟩ := call
  cases phase with
  | submitting => simp [turn?, fire?, advanceCall?, found, submit?, down, answer]
  | awaiting | told => simp [turn?, fire?, advanceCall?, found, down, answer]
  | reading =>
    obtain ⟨kind, id, rfl, _⟩ := sound
    have cancelled : broker.isCancelled id = true := by simp [isCancelled, down]
    exact fails_of_reading formed cancelled found
  | completing => exact cut.elim
  | answered | abandoned => cases pending

theorem ended_of_receive {input : Input} (ended : (broker.receive input).dispatcher = .ended) :
    broker.dispatcher = .ended := by
  cases input with
  | request =>
    simp only [receive] at ended
    split at ended <;> exact ended
  | startDispatcher =>
    simp only [receive, startDispatcher] at ended
    split at ended
    · cases ended
    · exact ended
  | dropDispatcher =>
    simp only [receive, dropDispatcher] at ended
    split at ended
    · cases ended
    · exact ended
  | tick | shutdown | close | abandon => exact ended

theorem cleared_step (taken : broker.turn? service turn = some (after, events))
    (cleared : broker.dispatcher = .ended → broker.table.slots = [])
    (ended : after.dispatcher = .ended) : after.table.slots = [] := by
  cases turns_of_turn? taken with
  | dispatched running dispatches =>
    obtain ⟨due, running⟩ := running
    cases dispatches with
    | stopped =>
      rw [stop_frame]
      rfl
    | handled _ _ handles =>
      rw [handles.frame] at ended
      cases running.symm.trans ended
    | swept =>
      rw [sweep_frame] at ended
      cases ended
  | advanced =>
    rw [(advanced_frame ..).1] at ended ⊢
    exact cleared ended
  | progressed =>
    rw [(moved_frame ..).1] at ended ⊢
    exact cleared ended
  | received =>
    have before := cleared (ended_of_receive ended)
    rw [receive_frame]
    exact before
  | changed => exact cleared ended

/-- The call has failed as cancelled or does so if it moves now, unless its caller gave up. -/
def Preempts (service : Service World Task) (broker : Broker World Task) (caller : CallId)
    (phase : Call.Phase) : Prop :=
  phase = .answered (.error .cancelled) ∨ phase = .abandoned ∨
    ∃ after, broker.turn? service (.move (.call caller)) =
      some (after, [.answered caller (.error .cancelled)])

theorem preempts_of_cut (formed : broker.WellFormed) (down : broker.shutdown = true)
    {caller : CallId} {call : Call} (found : broker.calls[caller]? = some call)
    (cut : call.Cut) : broker.Preempts service caller call.phase := by
  cases pending : call.isPending with
  | true => exact .inr (.inr (fails_of_down formed down found pending cut))
  | false =>
    obtain ⟨request, phase⟩ := call
    cases phase with
    | answered outcome =>
      have cancelled : outcome = .error .cancelled := cut
      exact .inl (congrArg _ cancelled)
    | abandoned => exact .inr (.inl rfl)
    | _ => cases pending

end Broker

namespace Trace

variable {start last : Broker World Task} {moments : List (Moment World Task)}

theorem unqueued (trace : Trace service start moments last) (down : start.shutdown = true) :
    acceptedIn (history moments) = [] ∧ handledIn (history moments) = [] := by
  induction trace with
  | nil => exact ⟨rfl, rfl⟩
  | snoc earlier taken ih =>
    have step := Broker.unqueued_step taken (earlier.down down)
    constructor
    · rw [history_append, history_singleton, acceptedIn_append, ih.1, step.1]
      rfl
    · rw [history_append, history_singleton, handledIn_append, ih.2, step.2]
      rfl

theorem cut (trace : Trace service start moments last) (down : start.shutdown = true)
    {caller : CallId} {request : Request}
    (before : ∀ phase, start.calls[caller]? = some { request, phase } →
      ({ request, phase } : Call).Cut) :
    ∀ phase, last.calls[caller]? = some { request, phase } →
      ({ request, phase } : Call).Cut := by
  induction trace with
  | nil => exact before
  | snoc earlier taken ih =>
    intro next found
    rcases Broker.call_origin taken found with
      ⟨⟨_, phase⟩, there, same, step⟩ | ⟨_, _, fresh, _⟩
    · cases same
      exact Broker.cut_step (earlier.down down) (ih phase there) step
    · cases fresh
      trivial

theorem kept_call (trace : Trace service start moments last) {caller : CallId} {call : Call}
    (found : start.calls[caller]? = some call) :
    ∃ phase, last.calls[caller]? = some { call with phase } := by
  induction trace with
  | nil => exact ⟨call.phase, found⟩
  | snoc _ taken ih =>
    obtain ⟨phase, there⟩ := ih
    obtain ⟨next, later, _⟩ := Broker.call_step taken there
    exact ⟨next, later⟩

end Trace

/-- What is left of a broker after shutdown. -/
structure CleanCut (service : Service World Task) (earlier : List (Moment World Task))
    (broker : Broker World Task) (later : List (Moment World Task)) (last : Broker World Task) :
    Prop where
  unaccepted : acceptedIn (history later) = []
  unhandled : handledIn (history later) = []
  unwritten : ∀ id, writtenTo id (history later) = []
  untaken : ∀ id, takes id (history later) = []
  pending : ∀ (caller : CallId) (call : Call), broker.calls[caller]? = some call →
    call.isPending = true → takenBy caller (history earlier) = [] →
    ∃ phase, last.calls[caller]? = some { call with phase } ∧ last.Preempts service caller phase
  late : ∀ (caller : CallId) (call : Call), broker.calls.length ≤ caller →
    last.calls[caller]? = some call → last.Preempts service caller call.phase
  cancelled : ∀ id, last.isCancelled id = true
  cleared : last.dispatcher = .ended → last.table.slots = []
  ends : ∀ due, last.dispatcher = .running due → ∃ after,
    last.turn? service (.move .dispatcher) = some (after, [.stopped last.table.ids]) ∧
      after.dispatcher = .ended

variable {config : Config} {origin : Timestamp} {world : World} {thrownAway : List TransactionId}
  {earlier later : List (Moment World Task)} {broker last : Broker World Task}

theorem Trace.cut_of_untaken
    (trace : Trace service (.fresh config origin world thrownAway) earlier broker)
    {caller : CallId} {call : Call} (found : broker.calls[caller]? = some call)
    (pending : call.isPending = true) (untaken : takenBy caller (history earlier) = []) :
    call.Cut := by
  have account := (trace.account caller).2 call found
  have sound := trace.wellFormed.sound caller call found
  rw [untaken] at account
  obtain ⟨request, phase⟩ := call
  cases phase with
  | completing outcome =>
    obtain ⟨kind, id, rfl, _⟩ := sound
    obtain ⟨value, took, _⟩ := account
    cases took
  | answered => cases pending
  | submitting | awaiting | told | reading | abandoned => trivial

/-- Whatever state the shutdown meets the broker in and whether its dispatcher is running, has ended
or never ran, it is a clean cut. -/
theorem cleanCut_of_shutdown
    (trace : Trace service (.fresh config origin world thrownAway) earlier broker)
    (down : broker.shutdown = true) (rest : Trace service broker later last) :
    CleanCut service earlier broker later last := by
  have formed := trace.wellFormed
  have whole := trace.append rest
  have formed' : last.WellFormed := whole.wellFormed
  have down' : last.shutdown = true := rest.down down
  have cancelled (id : TransactionId) : broker.isCancelled id = true := by
    simp [Broker.isCancelled, down]
  constructor
  case unaccepted => exact (rest.unqueued down).1
  case unhandled => exact (rest.unqueued down).2
  case unwritten => exact fun id => (rest.silent formed (cancelled id)).1
  case untaken => exact fun id => (rest.silent formed (cancelled id)).2
  case pending =>
    rintro caller ⟨request, phase⟩ found pending nothing
    obtain ⟨next, there⟩ := rest.kept_call found
    refine ⟨next, there, Broker.preempts_of_cut formed' down' there ?_⟩
    refine rest.cut down (fun before found' => ?_) next there
    cases found.symm.trans found'
    exact trace.cut_of_untaken found pending nothing
  case late =>
    intro caller call late there
    refine Broker.preempts_of_cut formed' down' there (rest.cut down (fun _ found => ?_) _ there)
    rw [List.getElem?_eq_none late] at found
    cases found
  case cancelled => exact fun id => rest.isCancelled_kept (cancelled id)
  case cleared =>
    refine whole.invariant (fun ended => ?_) fun cleared taken => Broker.cleared_step taken cleared
    cases ended
  case ends =>
    intro due running
    refine ⟨last.stop.1, ?_, rfl⟩
    simp [Broker.turn?, Broker.fire?, Broker.dispatch?, running, down', Broker.stop]

/-- With room for one action at a time: a creation waits for room to report, one call reads from it,
one waits to be let in, one waits for room in the queue. -/
def crowding : List (Turn Catalogue) :=
  stalling.take 14 ++
  [.input (.request (.collect .create 1)), .move (.call 2), .input (.request .listTransactions),
    .input .shutdown]

def leaving : List (Turn Catalogue) :=
  [.input (.request (.cancel 1)), .move (.call 4), .move (.call 3), .move (.call 2),
    .move (.call 1), .move (.run 1), .move .dispatcher, .input (.request .listTransactions),
    .move (.call 5)]

theorem cleanCut_crowding : ∃ earlier broker later last,
    (Broker.fresh narrow ⟨0, 0⟩ {} []).follow? stallPlan.service crowding =
      some (earlier, broker) ∧
    broker.shutdown = true ∧
    broker.queue = [.getResult 1 2] ∧
    broker.calls.map (·.phase) =
    [.answered (.ok (.started 1)), .reading, .awaiting, .submitting] ∧
    broker.follow? stallPlan.service leaving = some (later, last) ∧
    last.dispatcher = .ended ∧
    last.calls.map (·.phase) = .answered (.ok (.started 1)) ::
      List.replicate 5 (.answered (.error .cancelled)) ∧
    CleanCut stallPlan.service earlier broker later last := by
  have runs : ∃ earlier broker later last,
      (Broker.fresh narrow ⟨0, 0⟩ {} []).follow? stallPlan.service crowding =
        some (earlier, broker) ∧
      broker.shutdown = true ∧
      broker.queue = [.getResult 1 2] ∧
      broker.calls.map (·.phase) =
        [.answered (.ok (.started 1)), .reading, .awaiting, .submitting] ∧
      broker.follow? stallPlan.service leaving = some (later, last) ∧
      last.dispatcher = .ended ∧
      last.calls.map (·.phase) = .answered (.ok (.started 1)) ::
        List.replicate 5 (.answered (.error .cancelled)) :=
    ⟨_, _, _, _, rfl, rfl, rfl, rfl, rfl, rfl, rfl⟩
  obtain ⟨earlier, broker, later, last, followed, down, queue, waits, continued, ended,
    answers⟩ := runs
  exact ⟨earlier, broker, later, last, followed, down, queue, waits, continued, ended, answers,
    cleanCut_of_shutdown (.of_follow? followed) down (.of_follow? continued)⟩

end InstanceBroker
