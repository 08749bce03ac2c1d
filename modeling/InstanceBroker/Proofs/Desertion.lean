import InstanceBroker.Proofs.Submission

namespace InstanceBroker

variable {World Task : Type} {service : Service World Task}

def Call.Unattended (call : Call) : Prop :=
  match call.phase with
  | .submitting | .awaiting | .abandoned => True
  | .answered outcome => outcome = .ok .cancelRequested ∨ outcome = .error .dispatcherClosed ∨
      outcome = .error .cancelled
  | .told _ | .reading | .completing _ => False

namespace Broker

variable {start broker after : Broker World Task} {turn : Turn World} {events : List Event}
  {caller : CallId} {call : Call} {next : Call.Phase}

def Unstarted (broker : Broker World Task) : Prop :=
  broker.dispatcher = .idle ∨ broker.dispatcher = .dropped

theorem still_of_unaccepting (gone : broker.dispatcher.accepts = false)
    (taken : broker.turn? service turn = some (after, events)) : turn ≠ .move .dispatcher := by
  rintro rfl
  cases turns_of_turn? taken with
  | dispatched running =>
    obtain ⟨due, running⟩ := running
    rw [running] at gone
    cases gone

theorem dispatcher_of_gone (gone : broker.dispatcher.accepts = false)
    (taken : broker.turn? service turn = some (after, events)) :
    after.dispatcher = broker.dispatcher := by
  have step := dispatcher_step taken
  generalize after.dispatcher = later at step
  cases step with
  | kept => rfl
  | started idle | dropped idle =>
    rw [idle] at gone
    cases gone
  | stopped running | scheduled running =>
    rw [running] at gone
    cases gone

theorem unstarted_of_unstarted (taken : broker.turn? service turn = some (after, events))
    (unstarted : after.Unstarted) : broker.Unstarted := by
  have step := dispatcher_step taken
  unfold Unstarted at unstarted
  generalize after.dispatcher = later at step unstarted
  cases step with
  | kept => exact unstarted
  | dropped idle => exact .inl idle
  | started | stopped | scheduled => rcases unstarted with other | other <;> cases other

theorem still_of_unstarted (unstarted : broker.Unstarted)
    (taken : broker.turn? service turn = some (after, events)) : turn ≠ .move .dispatcher := by
  rintro rfl
  cases turns_of_turn? taken with
  | dispatched running =>
    obtain ⟨due, running⟩ := running
    rcases unstarted with other | other <;> cases running.symm.trans other

theorem unattended_step (still : turn ≠ .move .dispatcher) (unattended : call.Unattended)
    (step : CallStep broker after caller call turn events next) :
    ({ call with phase := next } : Call).Unattended := by
  cases step with
  | kept => exact unattended
  | told => exact absurd rfl still
  | progressed progresses =>
    cases progresses with
    | preempted | stranded => exact .inr (.inr rfl)
    | closed => exact .inr (.inl rfl)
    | cancelQueued => exact .inl rfl
    | queued => trivial
    | learned | opened | tookProgress | tookLast | unreleased | released => exact unattended.elim
  | abandoned => trivial

/-- A call that was not let in while `start` was there, and what has become of it. -/
def Outside (start broker : Broker World Task) (phase : Call.Phase) : Prop :=
  phase = .submitting ∨ phase = .abandoned ∨
    phase = .answered (.error .dispatcherClosed) ∧ start.shutdown = false ∨
    phase = .answered (.error .cancelled) ∧ broker.shutdown = true

/-- A call that was let in and had heard nothing, and what has become of it. -/
def Inside (broker : Broker World Task) (phase : Call.Phase) : Prop :=
  phase = .awaiting ∨ phase = .abandoned ∨
    phase = .answered (.error .cancelled) ∧ broker.shutdown = true

theorem outside_step (gone : broker.dispatcher.accepts = false)
    (taken : broker.turn? service turn = some (after, events))
    (before : broker.shutdown = false → start.shutdown = false)
    (outside : start.Outside broker call.phase)
    (step : CallStep broker after caller call turn events next) : start.Outside after next := by
  have down : broker.shutdown = true → after.shutdown = true := (settings_step taken).2.2.2.1
  obtain ⟨request, phase⟩ := call
  cases step with
  | kept =>
    rcases outside with submitting | abandoned | closed | ⟨cancelled, shut⟩
    · exact .inl submitting
    · exact .inr (.inl abandoned)
    · exact .inr (.inr (.inl closed))
    · exact .inr (.inr (.inr ⟨cancelled, down shut⟩))
  | told => exact absurd rfl (still_of_unaccepting gone taken)
  | progressed progresses =>
    have submitting : phase = .submitting := by
      have pending := progresses.pending
      rcases outside with submitting | rfl | ⟨rfl, -⟩ | ⟨rfl, -⟩
      · exact submitting
      all_goals cases pending
    subst submitting
    cases progresses with
    | preempted shut => exact .inr (.inr (.inr ⟨rfl, down shut⟩))
    | closed up => exact .inr (.inr (.inl ⟨rfl, before up⟩))
    | cancelQueued _ accepts | queued _ accepts => cases gone.symm.trans accepts
  | abandoned => exact .inr (.inl rfl)

theorem inside_step (gone : broker.dispatcher.accepts = false)
    (taken : broker.turn? service turn = some (after, events))
    (inside : broker.Inside call.phase)
    (step : CallStep broker after caller call turn events next) : after.Inside next := by
  have down : broker.shutdown = true → after.shutdown = true := (settings_step taken).2.2.2.1
  obtain ⟨request, phase⟩ := call
  cases step with
  | kept =>
    rcases inside with awaiting | abandoned | ⟨cancelled, shut⟩
    · exact .inl awaiting
    · exact .inr (.inl abandoned)
    · exact .inr (.inr ⟨cancelled, down shut⟩)
  | told => exact absurd rfl (still_of_unaccepting gone taken)
  | progressed progresses =>
    have awaiting : phase = .awaiting := by
      have pending := progresses.pending
      rcases inside with awaiting | rfl | ⟨rfl, -⟩
      · exact awaiting
      all_goals cases pending
    subst awaiting
    cases progresses with
    | preempted shut => exact .inr (.inr ⟨rfl, down shut⟩)
  | abandoned => exact .inr (.inl rfl)

theorem concluding_step (gone : broker.dispatcher.accepts = false) {outcome : Outcome}
    (concluding : call.phase = .completing outcome ∨ call.phase = .abandoned ∨
      call.phase = .answered outcome)
    (step : CallStep broker after caller call turn events next) :
    next = .completing outcome ∨ next = .abandoned ∨ next = .answered outcome := by
  obtain ⟨request, phase⟩ := call
  cases step with
  | kept => exact concluding
  | told waits =>
    cases waits
    rcases concluding with other | other | other <;> cases other
  | progressed progresses =>
    have completing : phase = .completing outcome := by
      have pending := progresses.pending
      rcases concluding with completing | rfl | rfl
      · exact completing
      all_goals cases pending
    subst completing
    cases progresses with
    | preempted _ open_ => rcases open_ with other | other | ⟨_, other⟩ <;> cases other
    | unreleased => exact .inr (.inr rfl)
    | released _ accepts => cases gone.symm.trans accepts
  | abandoned => exact .inr (.inl rfl)

theorem turned_away (gone : broker.dispatcher.accepts = false)
    (found : broker.calls[caller]? = some call) (submitting : call.phase = .submitting) :
    ∃ after, broker.turn? service (.move (.call caller)) = some (after, [.answered caller
      (.error (if broker.shutdown then .cancelled else .dispatcherClosed))]) := by
  obtain ⟨request, phase⟩ := call
  cases submitting
  cases down : broker.shutdown <;>
    simp [turn?, fire?, advanceCall?, found, submit?, gone, down, answer]

theorem concluded (closed : broker.shutdown = true) (formed : broker.WellFormed)
    (found : broker.calls[caller]? = some call) {outcome : Outcome}
    (completing : call.phase = .completing outcome) :
    ∃ after, broker.turn? service (.move (.call caller)) =
      some (after, [.answered caller outcome]) := by
  have sound := formed.sound caller call found
  obtain ⟨request, phase⟩ := call
  cases completing
  obtain ⟨kind, id, rfl, _⟩ := sound
  simp [turn?, fire?, advanceCall?, found, complete?, closed, answer]

def TurnsAway (service : Service World Task) (start broker : Broker World Task) (caller : CallId)
    (phase : Call.Phase) : Prop :=
  phase = .abandoned ∨
    phase = .answered (.error .dispatcherClosed) ∧ start.shutdown = false ∨
    phase = .answered (.error .cancelled) ∧ broker.shutdown = true ∨
    phase = .submitting ∧ ∃ after, broker.turn? service (.move (.call caller)) =
      some (after, [.answered caller
        (.error (if broker.shutdown then .cancelled else .dispatcherClosed))])

/-- How a call stands whose action was queued and not handled: only shutdown wakes it. -/
def Strands (service : Service World Task) (broker : Broker World Task) (caller : CallId)
    (call : Call) : Prop :=
  call.phase = .abandoned ∨
    call.phase = .answered (.error .cancelled) ∧ broker.shutdown = true ∨
    call.phase = .awaiting ∧ call.request.action caller ∈ broker.queue ∧
      if broker.shutdown then
        ∃ after, broker.turn? service (.move (.call caller)) =
          some (after, [.answered caller (.error .cancelled)])
      else broker.turn? service (.move (.call caller)) = none

def Concludes (service : Service World Task) (broker : Broker World Task) (caller : CallId)
    (phase : Call.Phase) (outcome : Outcome) : Prop :=
  phase = .answered outcome ∨ phase = .abandoned ∨
    ∃ after, broker.turn? service (.move (.call caller)) =
      some (after, [.answered caller outcome])

theorem strands_of_inside (formed : broker.WellFormed)
    (found : broker.calls[caller]? = some call) (inside : broker.Inside call.phase) :
    broker.Strands service caller call := by
  rcases inside with awaiting | abandoned | cut
  · refine .inr (.inr ⟨awaiting, formed.awaited caller call found awaiting, ?_⟩)
    obtain ⟨request, phase⟩ := call
    cases awaiting
    cases down : broker.shutdown <;>
      simp [turn?, fire?, advanceCall?, found, down, answer]
  · exact .inl abandoned
  · exact .inr (.inl cut)

end Broker

namespace Trace

variable {start last : Broker World Task} {moments : List (Moment World Task)}

theorem unattended (trace : Trace service start moments last)
    (before : start.Unstarted → ∀ call ∈ start.calls, call.Unattended) :
    last.Unstarted → ∀ call ∈ last.calls, call.Unattended := by
  induction trace with
  | nil => exact before
  | @snoc _ broker _ _ _ _ taken ih =>
    intro unstarted next listed
    have unstarted' := Broker.unstarted_of_unstarted taken unstarted
    have still := Broker.still_of_unstarted unstarted' taken
    obtain ⟨caller, found⟩ := List.mem_iff_getElem?.mp listed
    rcases Broker.call_origin taken found with
      ⟨call, there, same, step⟩ | ⟨_, _, submitting, _⟩
    · have kept :=
        Broker.unattended_step still (ih unstarted' call (List.mem_of_getElem? there)) step
      rw [same] at kept
      exact kept
    · unfold Call.Unattended
      rw [submitting]
      trivial

theorem undisturbed (trace : Trace service start moments last)
    (gone : start.dispatcher.accepts = false) :
    last.dispatcher = start.dispatcher ∧ last.queue = start.queue ∧
      acceptedIn (history moments) = [] ∧ handledIn (history moments) = [] := by
  induction trace with
  | nil => exact ⟨rfl, rfl, rfl, rfl⟩
  | @snoc _ broker after _ _ _ taken ih =>
    obtain ⟨dispatcher, queue, unaccepted, unhandled⟩ := ih
    have gone' : broker.dispatcher.accepts = false := dispatcher ▸ gone
    obtain ⟨nothing, none⟩ := Broker.unqueued_of_closed taken gone'
    have balance := Broker.queue_balance taken
    rw [nothing, none, List.append_nil, List.nil_append] at balance
    rw [history_append, history_singleton, acceptedIn_append, handledIn_append, unaccepted,
      unhandled, nothing, none]
    exact ⟨(Broker.dispatcher_of_gone gone' taken).trans dispatcher,
      balance.symm.trans queue, rfl, rfl⟩

theorem outside (trace : Trace service start moments last)
    (gone : start.dispatcher.accepts = false) {caller : CallId}
    (before : ∀ call, start.calls[caller]? = some call → call.phase = .submitting) :
    ∀ call, last.calls[caller]? = some call → start.Outside last call.phase := by
  induction trace with
  | nil => exact fun call found => .inl (before call found)
  | @snoc moments broker after _ _ earlier taken ih =>
    intro next found
    have gone' : broker.dispatcher.accepts = false := (earlier.undisturbed gone).1 ▸ gone
    rcases Broker.call_origin taken found with
      ⟨call, there, _, step⟩ | ⟨_, _, submitting, _⟩
    · exact Broker.outside_step gone' taken earlier.up (ih call there) step
    · exact .inl submitting

theorem inside (trace : Trace service start moments last)
    (gone : start.dispatcher.accepts = false) {caller : CallId} {call : Call}
    (found : start.calls[caller]? = some call) (awaiting : call.phase = .awaiting) :
    ∃ phase, last.calls[caller]? = some { call with phase } ∧ last.Inside phase := by
  induction trace with
  | nil => exact ⟨_, found, .inl awaiting⟩
  | @snoc moments broker after _ _ earlier taken ih =>
    obtain ⟨phase, there, inside⟩ := ih
    have gone' : broker.dispatcher.accepts = false := (earlier.undisturbed gone).1 ▸ gone
    obtain ⟨next, later, step⟩ := Broker.call_step taken there
    exact ⟨next, later, Broker.inside_step gone' taken inside step⟩

theorem concluding (trace : Trace service start moments last)
    (gone : start.dispatcher.accepts = false) {caller : CallId} {call : Call} {outcome : Outcome}
    (found : start.calls[caller]? = some call) (completing : call.phase = .completing outcome) :
    ∃ phase, last.calls[caller]? = some { call with phase } ∧
      (phase = .completing outcome ∨ phase = .abandoned ∨ phase = .answered outcome) := by
  induction trace with
  | nil => exact ⟨_, found, .inl completing⟩
  | @snoc moments broker after _ _ earlier taken ih =>
    obtain ⟨phase, there, concluding⟩ := ih
    have gone' : broker.dispatcher.accepts = false := (earlier.undisturbed gone).1 ▸ gone
    obtain ⟨next, later, step⟩ := Broker.call_step taken there
    exact ⟨next, later, Broker.concluding_step gone' concluding step⟩

end Trace

/-- Whoever had not been heard when the dispatcher went away, or asks later, is told so, and nobody
is left waiting. -/
def Dismisses (service : Service World Task) (broker last : Broker World Task) : Prop :=
  last.Settled service → ∀ (caller : CallId) (call : Call), last.calls[caller]? = some call →
    call.isPending = false ∧
      ((∀ before, broker.calls[caller]? = some before →
          before.phase = .submitting ∨ before.phase = .awaiting) →
        call.phase = .abandoned ∨ call.phase = .answered (.error .dispatcherClosed) ∨
          call.phase = .answered (.error .cancelled) ∧ last.shutdown = true)

/-- What has become of the calls of a broker since its dispatcher is gone. -/
structure Desertion (service : Service World Task) (broker : Broker World Task)
    (later : List (Moment World Task)) (last : Broker World Task) : Prop where
  gone : last.dispatcher = broker.dispatcher ∧ last.queue = broker.queue
  unaccepted : acceptedIn (history later) = []
  unhandled : handledIn (history later) = []
  outside : ∀ (caller : CallId) (call : Call), last.calls[caller]? = some call →
    (∀ before, broker.calls[caller]? = some before → before.phase = .submitting) →
    broker.TurnsAway service last caller call.phase
  inside : ∀ (caller : CallId) (call : Call), broker.calls[caller]? = some call →
    call.phase = .awaiting → ∃ phase, last.calls[caller]? = some { call with phase } ∧
      last.Strands service caller { call with phase }
  heard : ∀ (caller : CallId) (call : Call), broker.calls[caller]? = some call →
    (∃ reply, call.phase = .told reply) ∨ call.phase = .reading → broker.shutdown = true ∧
      ∃ phase, last.calls[caller]? = some { call with phase } ∧
        last.Preempts service caller phase
  concluding : ∀ (caller : CallId) (call : Call) outcome, broker.calls[caller]? = some call →
    call.phase = .completing outcome → broker.shutdown = true ∧
      ∃ phase, last.calls[caller]? = some { call with phase } ∧
        last.Concludes service caller phase outcome
  unattended : last.dispatcher = .dropped → ∀ call ∈ last.calls, call.Unattended
  ended : last.dispatcher = .ended → last.Settled service →
    ∀ call ∈ last.calls, call.isPending = false
  /-- The only calls that are left waiting. -/
  left : last.Settled service → ∀ (caller : CallId) (call : Call),
    last.calls[caller]? = some call → (call.isPending = true ↔
      last.dispatcher = .dropped ∧ last.shutdown = false ∧ call.phase = .awaiting)
  dismisses_iff : Dismisses service broker last ↔
    (last.Settled service → last.shutdown = false →
      ∀ call ∈ last.calls, call.phase ≠ .awaiting)

variable {config : Config} {origin : Timestamp} {world : World} {thrownAway : List TransactionId}
  {earlier later : List (Moment World Task)} {broker last : Broker World Task}

theorem dropped_of_up (formed : broker.WellFormed) (gone : broker.dispatcher.accepts = false)
    (up : broker.shutdown = false) {call : Call} (listed : call ∈ broker.calls)
    (pending : call.isPending = true) : broker.dispatcher = .dropped := by
  cases dispatcher : broker.dispatcher with
  | dropped => rfl
  | idle | running => simp [dispatcher, Dispatcher.accepts] at gone
  | ended =>
    rcases formed.ended dispatcher with down | alone
    · cases up.symm.trans down
    · rw [Broker.hasSenders, Bool.or_eq_false_iff, List.any_eq_false] at alone
      exact absurd pending (alone.2 call listed)

theorem down_of_heard (formed : broker.WellFormed) (gone : broker.dispatcher.accepts = false)
    (unattended : broker.Unstarted → ∀ call ∈ broker.calls, call.Unattended)
    {call : Call} (listed : call ∈ broker.calls) (pending : call.isPending = true)
    (heard : ¬ call.Unattended) : broker.shutdown = true := by
  cases down : broker.shutdown with
  | true => rfl
  | false =>
    have dropped := dropped_of_up formed gone down listed pending
    exact absurd (unattended (.inr dropped) call listed) heard

theorem awaiting_of_settled (formed : last.WellFormed) (gone : last.dispatcher.accepts = false)
    (unattended : last.Unstarted → ∀ call ∈ last.calls, call.Unattended)
    (settled : last.Settled service) {caller : CallId} {call : Call}
    (found : last.calls[caller]? = some call) (pending : call.isPending = true) :
    last.dispatcher = .dropped ∧ last.shutdown = false ∧ call.phase = .awaiting := by
  have listed := List.mem_of_getElem? found
  have up : last.shutdown = false :=
    Broker.up_of_blocked formed found pending (settled (.call caller))
  have dropped := dropped_of_up formed gone up listed pending
  refine ⟨dropped, up, ?_⟩
  have quiet := unattended (.inr dropped) call listed
  have blocked : last.turn? service (.move (.call caller)) = none := settled (.call caller)
  cases phase : call.phase with
  | awaiting => rfl
  | submitting =>
    obtain ⟨after, moves⟩ := Broker.turned_away gone found phase
    cases blocked.symm.trans moves
  | told | reading | completing => simp [Call.Unattended, phase] at quiet
  | answered | abandoned => simp [Call.isPending, phase] at pending

theorem dismissed_of_done (gone : broker.dispatcher.accepts = false)
    (rest : Trace service broker later last) {caller : CallId} {call : Call}
    (found : last.calls[caller]? = some call) (done : call.isPending = false)
    (before : ∀ old, broker.calls[caller]? = some old →
      old.phase = .submitting ∨ old.phase = .awaiting) :
    call.phase = .abandoned ∨ call.phase = .answered (.error .dispatcherClosed) ∨
      call.phase = .answered (.error .cancelled) ∧ last.shutdown = true := by
  by_cases waited : ∃ old, broker.calls[caller]? = some old ∧ old.phase = .awaiting
  · obtain ⟨old, there, awaiting⟩ := waited
    obtain ⟨phase, found', inside⟩ := rest.inside gone there awaiting
    cases found.symm.trans found'
    rcases inside with rfl | abandoned | cut
    · cases done
    · exact .inl abandoned
    · exact .inr (.inr cut)
  · have outside := rest.outside gone (fun old there =>
      (before old there).resolve_right fun awaiting => waited ⟨old, there, awaiting⟩) call found
    rcases outside with submitting | abandoned | ⟨closed, -⟩ | cut
    · rw [Call.isPending, submitting] at done
      cases done
    · exact .inl abandoned
    · exact .inr (.inl closed)
    · exact .inr (.inr cut)

/-- Once the dispatcher is gone, a call is left waiting only if its action was queued, the
dispatcher was dropped before it was started and shutdown has not fired. -/
theorem desertion_of_trace
    (trace : Trace service (.fresh config origin world thrownAway) earlier broker)
    (gone : broker.dispatcher.accepts = false) (rest : Trace service broker later last) :
    Desertion service broker later last := by
  have formed := trace.wellFormed
  have whole := trace.append rest
  have formed' : last.WellFormed := whole.wellFormed
  obtain ⟨dispatcher, queue, unaccepted, unhandled⟩ := rest.undisturbed gone
  have gone' : last.dispatcher.accepts = false := dispatcher ▸ gone
  have unattended : broker.Unstarted → ∀ call ∈ broker.calls, call.Unattended :=
    trace.unattended fun _ call listed => by cases listed
  have unattended' : last.Unstarted → ∀ call ∈ last.calls, call.Unattended :=
    whole.unattended fun _ call listed => by cases listed
  have left (settled : last.Settled service) (caller : CallId) (call : Call)
      (found : last.calls[caller]? = some call) : call.isPending = true ↔
        last.dispatcher = .dropped ∧ last.shutdown = false ∧ call.phase = .awaiting := by
    refine ⟨awaiting_of_settled formed' gone' unattended' settled found, ?_⟩
    rintro ⟨-, -, awaiting⟩
    rw [Call.isPending, awaiting]
  constructor
  case gone => exact ⟨dispatcher, queue⟩
  case unaccepted => exact unaccepted
  case unhandled => exact unhandled
  case outside =>
    intro caller call found before
    rcases rest.outside gone before call found with submitting | abandoned | closed | cut
    · exact .inr (.inr (.inr ⟨submitting, Broker.turned_away gone' found submitting⟩))
    · exact .inl abandoned
    · exact .inr (.inl closed)
    · exact .inr (.inr (.inl cut))
  case inside =>
    intro caller call found awaiting
    obtain ⟨phase, there, inside⟩ := rest.inside gone found awaiting
    exact ⟨phase, there, Broker.strands_of_inside formed' there inside⟩
  case heard =>
    rintro caller ⟨request, phase⟩ found heard
    have down : broker.shutdown = true := by
      refine down_of_heard formed gone unattended (List.mem_of_getElem? found) ?_ ?_
      all_goals rcases heard with ⟨reply, rfl⟩ | rfl <;> simp [Call.isPending, Call.Unattended]
    obtain ⟨next, there⟩ := rest.kept_call found
    refine ⟨down, next, there, Broker.preempts_of_cut formed' (rest.down down) there ?_⟩
    refine rest.cut down (fun before found' => ?_) next there
    cases found.symm.trans found'
    rcases heard with ⟨reply, rfl⟩ | rfl <;> trivial
  case concluding =>
    rintro caller ⟨request, phase⟩ outcome found rfl
    have down : broker.shutdown = true :=
      down_of_heard formed gone unattended (List.mem_of_getElem? found) rfl id
    obtain ⟨next, there, completing | abandoned | answered⟩ := rest.concluding gone found rfl
    · refine ⟨down, next, there, .inr (.inr ?_)⟩
      exact Broker.concluded (rest.down down) formed' there completing
    · exact ⟨down, next, there, .inr (.inl abandoned)⟩
    · exact ⟨down, next, there, .inl answered⟩
  case unattended => exact fun dropped => unattended' (.inr dropped)
  case ended =>
    intro ended settled call listed
    obtain ⟨caller, found⟩ := List.mem_iff_getElem?.mp listed
    rw [← Bool.not_eq_true, left settled caller call found, ended]
    rintro ⟨dropped, -⟩
    cases dropped
  case left => exact left
  case dismisses_iff =>
    constructor
    · intro dismisses settled _ call listed awaiting
      obtain ⟨caller, found⟩ := List.mem_iff_getElem?.mp listed
      have settles := (dismisses settled caller call found).1
      rw [Call.isPending, awaiting] at settles
      cases settles
    · intro none settled caller call found
      have done : call.isPending = false := by
        rw [← Bool.not_eq_true, left settled caller call found]
        rintro ⟨-, up, awaiting⟩
        exact none settled up call (List.mem_of_getElem? found) awaiting
      exact ⟨done, dismissed_of_done gone rest found done⟩

def stranding : List (Turn Catalogue) :=
  [.input (.request (.initiate .listInstances)), .move (.call 0),
    .input (.request (.initiate .listInstances)), .input .dropDispatcher]

def lingering : List (Turn Catalogue) :=
  [.move (.call 1), .input (.request .listTransactions), .move (.call 2)]

theorem desertion_stranding : ∃ earlier broker later last,
    (Broker.fresh narrow ⟨0, 0⟩ {} []).follow? (Simulated.Plan.service {}) stranding =
      some (earlier, broker) ∧
    broker.dispatcher.accepts = false ∧
    broker.calls.map (·.phase) = [.awaiting, .submitting] ∧
    broker.follow? (Simulated.Plan.service {}) lingering = some (later, last) ∧
    last.Settled (Simulated.Plan.service {}) ∧
    last.calls.map (·.phase) = [.awaiting, .answered (.error .dispatcherClosed),
      .answered (.error .dispatcherClosed)] ∧
    Desertion (Simulated.Plan.service {}) broker later last := by
  have runs : ∃ earlier broker later last,
      (Broker.fresh narrow ⟨0, 0⟩ {} []).follow? (Simulated.Plan.service {}) stranding =
        some (earlier, broker) ∧
      broker.dispatcher.accepts = false ∧
      broker.calls.map (·.phase) = [.awaiting, .submitting] ∧
      broker.follow? (Simulated.Plan.service {}) lingering = some (later, last) ∧
      last.next? (Simulated.Plan.service {}) = none ∧
      last.calls.map (·.phase) = [.awaiting, .answered (.error .dispatcherClosed),
        .answered (.error .dispatcherClosed)] :=
    ⟨_, _, _, _, rfl, rfl, rfl, rfl, rfl, rfl⟩
  obtain ⟨earlier, broker, later, last, followed, gone, waits, continued, blocked, answers⟩ :=
    runs
  exact ⟨earlier, broker, later, last, followed, gone, waits, continued,
    Broker.settled_iff.mpr blocked, answers,
    desertion_of_trace (.of_follow? followed) gone (.of_follow? continued)⟩

/-- A listing that is let in before the dispatcher is dropped is never answered. -/
theorem not_dismisses_stranding : ∃ moments broker,
    (Broker.fresh {} ⟨0, 0⟩ {} []).follow? (Simulated.Plan.service {})
      [.input (.request (.initiate .listInstances)), .move (.call 0), .input .dropDispatcher] =
        some (moments, broker) ∧
    broker.dispatcher = .dropped ∧ broker.Settled (Simulated.Plan.service {}) ∧
    broker.calls.map (·.phase) = [.awaiting] ∧
    ¬ Dismisses (Simulated.Plan.service {}) broker broker := by
  have runs : ∃ moments broker,
      (Broker.fresh {} ⟨0, 0⟩ {} []).follow? (Simulated.Plan.service {})
        [.input (.request (.initiate .listInstances)), .move (.call 0), .input .dropDispatcher] =
          some (moments, broker) ∧
      broker.dispatcher = .dropped ∧ broker.next? (Simulated.Plan.service {}) = none ∧
      broker.calls = [{ request := .initiate .listInstances, phase := .awaiting }] :=
    ⟨_, _, rfl, rfl, rfl, rfl⟩
  obtain ⟨moments, broker, followed, dropped, blocked, waits⟩ := runs
  have settled := Broker.settled_iff.mpr blocked
  refine ⟨moments, broker, followed, dropped, settled, congrArg _ waits, fun dismisses => ?_⟩
  have done := (dismisses settled 0 _ (by rw [waits]; rfl)).1
  cases done

end InstanceBroker
