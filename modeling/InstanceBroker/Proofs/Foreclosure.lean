import InstanceBroker.Proofs.Cancellation
import InstanceBroker.Proofs.Order
import InstanceBroker.Proofs.Quiescence

namespace InstanceBroker

variable {World Task : Type} {service : Service World Task}

namespace Broker

variable {broker after : Broker World Task} {turn : Turn World} {events : List Event}
  {id : TransactionId}

theorem isCancelled_kept (taken : broker.turn? service turn = some (after, events))
    (cancelled : broker.isCancelled id = true) : after.isCancelled id = true := by
  cases later : after.isCancelled id with
  | true => rfl
  | false =>
    have before := isCancelled_step taken later
    rw [cancelled] at before
    cases before

theorem Advances.unwritten {run next : Run Task} {world : World}
    (advances : Advances service broker id run world next events)
    (cancelled : broker.isCancelled id = true) : writtenTo id events = [] := by
  cases advances with
  | accepted _ uncancelled | delivered _ uncancelled =>
    rw [cancelled] at uncancelled
    cases uncancelled
  | _ => rfl

theorem silent_step (formed : broker.WellFormed)
    (taken : broker.turn? service turn = some (after, events))
    (cancelled : broker.isCancelled id = true) :
    writtenTo id events = [] ∧ takes id events = [] := by
  cases found : broker.run? id with
  | none =>
    obtain ⟨untaken, unwritten, _⟩ := run_begun taken formed.numbered found
    exact ⟨unwritten, takes_of_untaken untaken⟩
  | some run =>
    obtain ⟨next, _, step⟩ := run_step taken found
    cases step with
    | kept _ untaken unwritten => exact ⟨unwritten, takes_of_untaken untaken⟩
    | signalled _ untaken unwritten => exact ⟨unwritten, takes_of_untaken untaken⟩
    | advanced advances =>
      exact ⟨advances.unwritten cancelled, takes_of_untaken advances.buffer.2.1⟩
    | read _ up uncancelled =>
      simp [isCancelled, found, up, uncancelled] at cancelled

/-- A run does not wait for room in vain: it gives up the value it holds. -/
theorem gives_up_of_cancelled {run : Run Task} (found : broker.run? id = some run)
    (cancelled : broker.isCancelled id = true) {value : ResultValue} (holds : run.held = [value]) :
    ∃ after events next, broker.turn? service (.move (.run id)) = some (after, events) ∧
      writtenTo id events = [] ∧ after.run? id = some next ∧ next.held = [] := by
  have ongoing : run.hasEnded = false := by
    cases ended : run.hasEnded with
    | false => rfl
    | true =>
      unfold Run.hasEnded at ended
      split at ended
      · rename_i phase
        simp [Run.held, phase] at holds
      · cases ended
  cases fired : broker.advanceRun? service id with
  | none =>
    rcases waits_of_blocked found ongoing fired with ⟨task, working, _⟩ | ⟨_, isOpen, _⟩
    · simp [Run.held, working] at holds
    · simp [Broker.isOpen, cancelled] at isOpen
  | some step =>
    obtain ⟨after, events⟩ := step
    have taken : broker.turn? service (.move (.run id)) = some (after, events) := fired
    obtain ⟨next, there, step⟩ := run_step taken found
    refine ⟨after, events, next, taken, ?_, there, ?_⟩
    all_goals
      cases step with
      | kept other => exact absurd rfl other
      | advanced advances =>
        cases advances with
        | proceeded working | reported working | dropped working | finished working =>
          simp [Run.held, working] at holds
        | accepted _ uncancelled | delivered _ uncancelled =>
          rw [cancelled] at uncancelled
          cases uncancelled
        | refused | undelivered => rfl

end Broker

/-- The call may still believe that it can read, but it gets no further than to a failure. -/
def Call.Forfeits (call : Call) : Prop :=
  call.phase = .told .granted ∨ call.phase = .reading ∨
    call.phase = .answered (.error .cancelled) ∨ call.phase = .abandoned

namespace Broker

variable {broker after : Broker World Task} {turn : Turn World} {events : List Event}
  {id : TransactionId}

theorem forfeits_step {caller : CallId} {kind : Operation.Kind} {phase next : Call.Phase}
    (cancelled : broker.isCancelled id = true)
    (forfeits : ({ request := .collect kind id, phase } : Call).Forfeits)
    (step : CallStep broker after caller { request := .collect kind id, phase } turn events next) :
    ({ request := .collect kind id, phase := next } : Call).Forfeits ∧
      (next = .told .granted → phase = .told .granted) := by
  generalize asked : Request.collect kind id = request at step
  have uncancelled {run : Run Task} (found : broker.run? id = some run)
      (up : broker.shutdown = false) : run.cancelled = true := by
    simpa [isCancelled, found, up] using cancelled
  cases step with
  | kept => exact ⟨forfeits, fun same => same⟩
  | told waits =>
    cases waits
    rcases forfeits with equal | equal | equal | equal <;> cases equal
  | progressed progresses =>
    cases progresses with
    | preempted | stranded => exact ⟨.inr (.inr (.inl rfl)), fun same => by cases same⟩
    | opened => exact ⟨.inr (.inl rfl), fun same => by cases same⟩
    | closed | cancelQueued | queued | unreleased | released =>
      rcases forfeits with equal | equal | equal | equal <;> cases equal
    | learned _ known =>
      rcases forfeits with equal | equal | equal | equal
      · cases equal
        cases known
      all_goals cases equal
    | tookProgress found up open_ | tookLast found up open_ =>
      cases asked
      rw [uncancelled found up] at open_
      cases open_
  | abandoned => exact ⟨.inr (.inr (.inr rfl)), fun same => by cases same⟩

theorem fails_of_reading (formed : broker.WellFormed) (cancelled : broker.isCancelled id = true)
    {caller : CallId} {kind : Operation.Kind}
    (found : broker.calls[caller]? = some { request := .collect kind id, phase := .reading }) :
    ∃ after, broker.turn? service (.move (.call caller)) =
      some (after, [.answered caller (.error .cancelled)]) := by
  obtain ⟨run, there⟩ := formed.begun_of_holds found BEq.rfl
  have closed : (broker.shutdown || run.cancelled) = true := by
    simpa [isCancelled, there] using cancelled
  simp only [turn?, fire?, advanceCall?, found, Option.bind_eq_bind, Option.bind_some, take?, there]
  rw [if_pos closed]
  exact ⟨_, rfl⟩

theorem moves_of_granted {caller : CallId} {request : Request}
    (found : broker.calls[caller]? = some { request, phase := .told .granted }) :
    ∃ after events, broker.turn? service (.move (.call caller)) = some (after, events) := by
  simp only [turn?, fire?, advanceCall?, found, Option.bind_eq_bind, Option.bind_some]
  split
  · exact ⟨_, _, rfl⟩
  · exact ⟨_, _, rfl⟩

end Broker

def Fault.IsUnheard (fault : Fault) : Prop := fault = .cancelled ∨ fault = .dispatcherClosed

namespace Trace

variable {start last : Broker World Task} {moments : List (Moment World Task)} {id : TransactionId}

theorem isCancelled_kept (trace : Trace service start moments last)
    (cancelled : start.isCancelled id = true) : last.isCancelled id = true :=
  trace.invariant cancelled fun cancelled taken => Broker.isCancelled_kept taken cancelled

theorem silent (trace : Trace service start moments last) (formed : start.WellFormed)
    (cancelled : start.isCancelled id = true) :
    writtenTo id (history moments) = [] ∧ takes id (history moments) = [] := by
  induction trace with
  | nil => exact ⟨rfl, rfl⟩
  | snoc earlier taken ih =>
    have step :=
      Broker.silent_step (earlier.formed formed) taken (earlier.isCancelled_kept cancelled)
    rw [history_append, history_singleton, writtenTo_append, takes_append, ih.1, ih.2]
    exact step

theorem forfeits (trace : Trace service start moments last)
    (cancelled : start.isCancelled id = true) {caller : CallId} {kind : Operation.Kind}
    {phase : Call.Phase}
    (found : start.calls[caller]? = some { request := .collect kind id, phase })
    (forfeits : ({ request := .collect kind id, phase } : Call).Forfeits) :
    ∃ next, last.calls[caller]? = some { request := .collect kind id, phase := next } ∧
      ({ request := .collect kind id, phase := next } : Call).Forfeits ∧
      (next = .told .granted → phase = .told .granted) := by
  induction trace with
  | nil => exact ⟨phase, found, forfeits, fun same => same⟩
  | snoc earlier taken ih =>
    obtain ⟨middle, found, forfeits, before⟩ := ih
    obtain ⟨next, there, step⟩ := Broker.call_step taken found
    obtain ⟨forfeits, back⟩ :=
      Broker.forfeits_step (earlier.isCancelled_kept cancelled) forfeits step
    exact ⟨next, there, forfeits, fun same => before (back same)⟩

theorem untold (trace : Trace service start moments last) (formed : start.WellFormed)
    {queue : List Action} (queued : start.queue = queue ++ [.cancel id])
    (unhandled : handledIn (history moments) = queue) {caller : CallId}
    (late : start.calls.length ≤ caller) {request : Request}
    (replied : ∀ id, request ≠ .cancel id) {phase : Call.Phase}
    (found : last.calls[caller]? = some { request, phase }) :
    ({ request, phase } : Call).Informed (fun _ => False) Fault.IsUnheard := by
  refine trace.informed_of_late formed late not_false replied (fun moment among => ?_) found
  refine ⟨fun _ => .inl rfl, fun _ _ _ _ => .inr rfl, fun rest reply head _ => ?_⟩
  obtain ⟨first, later, _, rfl, before, _, _⟩ := trace.split among
  have drained := before.drained_of_late formed late head (Request.caller?_action caller replied)
  -- The cancellation itself would be among what was handled.
  have most := drained.length_le
  rw [history_append, handledIn_append] at unhandled
  have fewer := congrArg List.length unhandled
  rw [queued] at most
  simp only [List.length_append, List.length_singleton] at most fewer
  omega

end Trace

def DispatcherReply.Refuses (id : TransactionId) (reply : DispatcherReply) : Prop :=
  ∃ fault, reply = .refused fault ∧ (fault = .cancelled ∨ fault = .unknownTransaction id)

namespace Broker

variable {broker : Broker World Task} {id : TransactionId}

theorem refused_of_marked
    (marked : ∀ slot, broker.table.find? id = some slot → slot.state = .cancelled)
    {caller : CallId} {reply : DispatcherReply}
    (replies : broker.reply? (.getResult id caller) = some reply) : reply.Refuses id := by
  rcases broker.reply?_getResult id caller with
    ⟨_, refused⟩ | ⟨slot, live, ⟨_, refused⟩ | ⟨usable, _⟩⟩
  · cases refused.symm.trans replies
    exact ⟨_, rfl, .inr rfl⟩
  · cases refused.symm.trans replies
    exact ⟨_, rfl, .inl rfl⟩
  · exact absurd (marked slot live) usable

theorem acknowledged_step {after : Broker World Task} {turn : Turn World} {asker : CallId}
    {action : Action} {outcome : Outcome}
    (taken : broker.turn? service turn =
      some (after, [.accepted asker action, .answered asker outcome])) :
    after.queue = broker.queue ++ [action] ∧ after.calls.length = broker.calls.length := by
  constructor
  · exact (queue_balance taken).symm
  · rcases calls_length taken with same | ⟨_, rfl, _, _⟩
    · exact same
    · cases taken

theorem marked_of_handled {after : Broker World Task}
    (handled : broker.turn? service (.move .dispatcher) =
      some (after, [.handled (.cancel id), .cancelled id])) :
    broker.queue = .cancel id :: after.queue ∧
      ∃ slot, after.table.find? id = some slot ∧ slot.state = .cancelled := by
  obtain ⟨_, _, made, _, head, handles⟩ := handles_of_handled handled List.mem_cons_self
  cases made
  exact ⟨head, handles.cancelled_slot⟩

end Broker

theorem Trace.refused_of_untold {before broker last : Broker World Task}
    {later : List (Moment World Task)} {id : TransactionId} (formed : before.WellFormed)
    (handled : before.turn? service (.move .dispatcher) =
      some (broker, [.handled (.cancel id), .cancelled id]))
    (rest : Trace service broker later last) {caller : CallId} {kind : Operation.Kind}
    (untold : ∀ phase, before.calls[caller]? = some { request := .collect kind id, phase } →
      ({ request := .collect kind id, phase } : Call).Informed (fun _ => False) Fault.IsUnheard)
    {phase : Call.Phase}
    (found : last.calls[caller]? = some { request := .collect kind id, phase }) :
    ({ request := .collect kind id, phase } : Call).Informed (·.Refuses id) Fault.IsUnheard := by
  obtain ⟨head, slot, there, marked⟩ := Broker.marked_of_handled handled
  have formed' := formed.step handled
  have marked' : ∀ other, broker.table.find? id = some other → other.state = .cancelled := by
    intro other there'
    cases there'.symm.trans there
    exact marked
  have old : id < broker.table.nextId := by
    have live := (Table.isLive_iff ..).mp (Table.isLive_of_find? there)
    have known := (formed'.known id live).2
    rw [formed'.numbered]
    exact Nat.lt_succ_of_le known
  have ungranted : ¬ DispatcherReply.Refuses id .granted := by
    rintro ⟨_, equal, _⟩
    cases equal
  refine ((Trace.single handled).append rest).informed formed ungranted (by simp)
    (fun moment among => ?_) (fun phase there => (untold phase there).mono nofun) _ found
  refine ⟨fun _ => .inl rfl, fun _ _ _ _ => .inr rfl, fun queue reply next replies => ?_⟩
  rcases List.mem_cons.mp among with rfl | among
  · rw [head] at next
    cases next
  · obtain ⟨first, _, _, _, prior, _, _⟩ := rest.split among
    have lasts := (prior.cancelled_lasts formed' old marked').2.2
    exact Broker.refused_of_marked lasts replies

/-- What a cancellation that the dispatcher has handled leaves of a transaction. -/
structure Foreclosed (service : Service World Task) (earlier : List (Moment World Task))
    (broker : Broker World Task) (later : List (Moment World Task)) (last : Broker World Task)
    (id : TransactionId) : Prop where
  unwritten : writtenTo id (history later) = []
  leaves : ∀ run value, last.run? id = some run → run.held = [value] →
    ∃ after events next, last.turn? service (.move (.run id)) = some (after, events) ∧
      writtenTo id events = [] ∧ after.run? id = some next ∧ next.held = []
  untaken : takes id (history later) = []
  waiting : ∀ caller kind phase,
    broker.calls[caller]? = some { request := .collect kind id, phase } →
    phase = .reading ∨ phase = .told .granted →
    ∃ next, last.calls[caller]? = some { request := .collect kind id, phase := next } ∧
      (next = .answered (.error .cancelled) ∨ next = .abandoned ∨
        (next = .reading ∧ ∃ after, last.turn? service (.move (.call caller)) =
          some (after, [.answered caller (.error .cancelled)])) ∨
        (next = .told .granted ∧ phase = .told .granted ∧
          ∃ after events, last.turn? service (.move (.call caller)) = some (after, events)))
  /-- Who asks once the cancellation was acknowledged gets no value, even if the dispatcher was yet
  to handle it. -/
  asked : ∀ first returned middle asker, earlier = first ++ returned :: middle →
    returned.events =
      [.accepted asker (.cancel id), .answered asker (.ok .cancelRequested)] →
    handledIn (history middle) = returned.broker.queue →
    ∀ caller kind phase, returned.broker.calls.length ≤ caller →
      last.calls[caller]? = some { request := .collect kind id, phase } →
      last.Returns service caller { request := .collect kind id, phase } fun outcome =>
        ∃ fault, outcome = .error fault ∧ fault.isBarren id

variable {config : Config} {origin : Timestamp} {world : World} {thrownAway : List TransactionId}
  {earlier later : List (Moment World Task)} {before broker last : Broker World Task}
  {id : TransactionId}

/-- From the moment at which the dispatcher cancels a live transaction there are no more values in
it for anybody. -/
theorem foreclosed_of_handled (valid : config.validate = .ok config)
    (trace : Trace service (.fresh config origin world thrownAway) earlier before)
    (handled : before.turn? service (.move .dispatcher) =
      some (broker, [.handled (.cancel id), .cancelled id]))
    (rest : Trace service broker later last) :
    Foreclosed service earlier broker later last id := by
  have whole := trace.snoc handled
  have formed := whole.wellFormed
  have formed' : last.WellFormed := (whole.append rest).wellFormed
  obtain ⟨_, slot, found, marked⟩ := Broker.marked_of_handled handled
  have cancelled : broker.isCancelled id = true := by
    obtain ⟨run, there, cancelled⟩ := formed.cancelled id slot found marked
    simp [Broker.isCancelled, there, cancelled]
  have cancelled' : last.isCancelled id = true := rest.isCancelled_kept cancelled
  obtain ⟨unwritten, untaken⟩ := rest.silent formed cancelled
  constructor
  case unwritten => exact unwritten
  case untaken => exact untaken
  case leaves =>
    intro run value there holds
    exact Broker.gives_up_of_cancelled there cancelled' holds
  case waiting =>
    intro caller kind phase there waits
    have forfeits : ({ request := .collect kind id, phase } : Call).Forfeits :=
      waits.elim (fun reading => .inr (.inl reading)) .inl
    obtain ⟨next, there', forfeits', back⟩ := rest.forfeits cancelled there forfeits
    refine ⟨next, there', ?_⟩
    rcases forfeits' with granted | reading | failed | abandoned
    · cases granted
      exact .inr (.inr (.inr ⟨rfl, back rfl, Broker.moves_of_granted there'⟩))
    · cases reading
      exact .inr (.inr (.inl ⟨rfl, Broker.fails_of_reading formed' cancelled' there'⟩))
    · exact .inl failed
    · exact .inr (.inl abandoned)
  case asked =>
    intro first returned middle asker shape acknowledged ahead caller kind phase late there
    subst shape
    obtain ⟨start, prior, taken, between⟩ := trace.split_at
    rw [acknowledged] at taken
    obtain ⟨queued, same⟩ := Broker.acknowledged_step taken
    have informed := Trace.refused_of_untold trace.wellFormed handled rest
      (fun phase there => between.untold (prior.snoc taken).wellFormed queued ahead (same ▸ late)
        (by simp) there) there
    have roomy := (whole.append rest).roomy valid
    obtain ⟨run, opened⟩ := formed.run?_isSome (Table.isLive_of_find? found)
    obtain ⟨run, opened⟩ := rest.kept_run opened
    refine Broker.returns_of_informed formed' roomy opened there informed ?_ ?_
    · rintro _ outcome ⟨fault, rfl, cause⟩ known
      cases known
      exact ⟨fault, rfl, cause.imp_right .inl⟩
    · intro fault cause
      exact ⟨fault, rfl, cause.imp_right .inr⟩

/-- A creation that waits for room to report its second step when its cancellation is acknowledged,
with one call reading and one that is made afterwards. -/
def stalling : List (Turn Catalogue) :=
  [.input .startDispatcher, .input (.request (.initiate (.create { name := some "vm" }))),
    .move (.call 0), .move .dispatcher, .move (.call 0), .input (.request (.collect .create 1)),
    .move (.call 1), .move .dispatcher, .move (.call 1), .move (.run 1), .move (.run 1),
    .move (.run 1), .move (.run 1), .move (.run 1), .input (.request (.cancel 1)),
    .move (.call 2), .input (.request (.collect .create 1)), .move (.call 3)]

def stallPlan : Simulated.Plan := { creationSteps := ["boot", "mount"] }

theorem foreclosed_stalling : ∃ earlier before broker later last,
    (Broker.fresh {} ⟨0, 0⟩ {} []).follow? stallPlan.service stalling =
      some (earlier, before) ∧
    Config.validate {} = .ok {} ∧
    before.buffered 1 = [.progress (.progress "boot")] ∧
    before.held 1 = [.progress (.progress "mount")] ∧
    before.fire? stallPlan.service (.run 1) = none ∧
    before.turn? stallPlan.service (.move .dispatcher) =
      some (broker, [.handled (.cancel 1), .cancelled 1]) ∧
    broker.follow? stallPlan.service
      [.move (.run 1), .move (.call 1), .move .dispatcher, .move (.call 3)] = some (later, last) ∧
    last.calls.map (·.phase) = [.answered (.ok (.started 1)), .answered (.error .cancelled),
      .answered (.ok .cancelRequested), .answered (.error .cancelled)] ∧
    Foreclosed stallPlan.service earlier broker later last 1 := by
  have runs : ∃ earlier before broker later last,
      (Broker.fresh {} ⟨0, 0⟩ {} []).follow? stallPlan.service stalling =
      some (earlier, before) ∧
      before.buffered 1 = [.progress (.progress "boot")] ∧
      before.held 1 = [.progress (.progress "mount")] ∧
      before.fire? stallPlan.service (.run 1) = none ∧
      before.turn? stallPlan.service (.move .dispatcher) =
        some (broker, [.handled (.cancel 1), .cancelled 1]) ∧
      broker.follow? stallPlan.service
        [.move (.run 1), .move (.call 1), .move .dispatcher, .move (.call 3)] =
          some (later, last) ∧
      last.calls.map (·.phase) = [.answered (.ok (.started 1)), .answered (.error .cancelled),
        .answered (.ok .cancelRequested), .answered (.error .cancelled)] :=
    ⟨_, _, _, _, _, rfl, rfl, rfl, rfl, rfl, rfl, rfl⟩
  obtain ⟨earlier, before, broker, later, last, followed, full, holds, blocked, handled,
    continued, answers⟩ := runs
  have valid : Config.validate {} = .ok {} := rfl
  exact ⟨earlier, before, broker, later, last, followed, valid, full, holds, blocked, handled,
    continued, answers,
    foreclosed_of_handled valid (.of_follow? followed) handled (.of_follow? continued)⟩

end InstanceBroker
