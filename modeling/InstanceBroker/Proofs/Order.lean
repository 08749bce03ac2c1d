import InstanceBroker.Proofs.Quiescence

namespace InstanceBroker

variable {World Task : Type} {service : Service World Task}

namespace Event

def accepted? : Event → Option Action
  | .accepted _ action => some action
  | _ => none

def handled? : Event → Option Action
  | .handled action => some action
  | _ => none

end Event

def acceptedIn (events : List Event) : List Action := events.filterMap (·.accepted?)

def handledIn (events : List Event) : List Action := events.filterMap (·.handled?)

@[simp] theorem acceptedIn_append (first later : List Event) :
    acceptedIn (first ++ later) = acceptedIn first ++ acceptedIn later := by simp [acceptedIn]

@[simp] theorem handledIn_append (first later : List Event) :
    handledIn (first ++ later) = handledIn first ++ handledIn later := by simp [handledIn]

theorem mem_handledIn {action : Action} {events : List Event} :
    action ∈ handledIn events ↔ .handled action ∈ events := by
  simp only [handledIn, List.mem_filterMap]
  constructor
  · rintro ⟨event, among, found⟩
    cases event with
    | handled other =>
      cases found
      exact among
    | _ => cases found
  · intro among
    exact ⟨_, among, rfl⟩

namespace Broker

variable {broker after : Broker World Task} {turn : Turn World} {events : List Event}

theorem Handles.unqueued {action : Action}
    (handles : Handles service broker action after events) :
    acceptedIn events = [] ∧ handledIn events = [] := by
  cases handles <;> exact ⟨rfl, rfl⟩

theorem Progresses.queues {caller : CallId} {call : Call} {phase : Call.Phase}
    {actions : List Action} {taken : Option (TransactionId × List ResultValue)}
    (progresses : Progresses broker caller call phase actions taken events) :
    acceptedIn events = actions ∧ handledIn events = [] := by
  cases progresses <;> exact ⟨rfl, rfl⟩

theorem Advances.unqueued {id : TransactionId} {run next : Run Task} {world : World}
    (advances : Advances service broker id run world next events) :
    acceptedIn events = [] ∧ handledIn events = [] := by
  cases advances <;> exact ⟨rfl, rfl⟩

theorem queue_balance (taken : broker.turn? service turn = some (after, events)) :
    broker.queue ++ acceptedIn events = handledIn events ++ after.queue := by
  cases turns_of_turn? taken with
  | dispatched running dispatches =>
    cases dispatches with
    | stopped =>
      have same : broker.stop.1.queue = broker.queue := by rw [stop_frame]
      rw [same]
      exact List.append_nil _
    | @handled action queue _ later up head handles =>
      have same : after.queue = queue := by rw [handles.frame]
      obtain ⟨unaccepted, unhandled⟩ := handles.unqueued
      have accepted : acceptedIn (.handled action :: later) = [] := unaccepted
      have handled : handledIn (.handled action :: later) = [action] :=
        congrArg (action :: ·) unhandled
      rw [accepted, handled, same, head]
      exact List.append_nil _
    | @swept ttl due =>
      have same : (broker.sweep ttl due).1.queue = broker.queue := by rw [sweep_frame]
      have accepted : acceptedIn ((broker.table.expired ttl broker.clock).map .swept) = [] := by
        simp [acceptedIn, List.filterMap_map, Event.accepted?]
      have handled : handledIn ((broker.table.expired ttl broker.clock).map .swept) = [] := by
        simp [handledIn, List.filterMap_map, Event.handled?]
      rw [accepted, handled, same]
      exact List.append_nil _
  | @advanced id moving next world _ moves advances =>
    obtain ⟨unaccepted, unhandled⟩ := advances.unqueued
    rw [unaccepted, unhandled, (advanced_frame ..).1]
    exact List.append_nil _
  | progressed asks progresses =>
    obtain ⟨accepted, unhandled⟩ := progresses.queues
    rw [accepted, unhandled, queue_moved]
    rfl
  | received =>
    rw [receive_frame]
    exact List.append_nil _
  | changed => exact List.append_nil _

end Broker

namespace Trace

variable {start last : Broker World Task} {moments : List (Moment World Task)}

theorem queue_balance (trace : Trace service start moments last) :
    start.queue ++ acceptedIn (history moments) = handledIn (history moments) ++ last.queue := by
  induction trace with
  | nil => exact List.append_nil _
  | @snoc moments broker after turn events earlier taken ih =>
    have step := Broker.queue_balance taken
    simp only [history_append, history_singleton, acceptedIn_append, handledIn_append]
    rw [← List.append_assoc, ih, List.append_assoc, step, List.append_assoc]

theorem drained_of_head (trace : Trace service start moments last) {action : Action}
    {queue : List Action} (head : last.queue = action :: queue) (new : action ∉ start.queue) :
    start.queue <+: handledIn (history moments) := by
  have balance := trace.queue_balance
  rw [head] at balance
  rcases List.append_eq_append_iff.mp balance with ⟨rest, handled, _⟩ | ⟨rest, waits, shape⟩
  · exact ⟨rest, handled.symm⟩
  · cases rest with
    | nil =>
      rw [List.append_nil] at waits
      exact waits ▸ List.prefix_rfl
    | cons first rest =>
      cases shape
      have there : action ∈ start.queue := by
        rw [waits]
        exact List.mem_append_right _ List.mem_cons_self
      exact absurd there new

theorem drained_of_late (trace : Trace service start moments last) (formed : start.WellFormed)
    {caller : CallId} (late : start.calls.length ≤ caller) {action : Action} {queue : List Action}
    (head : last.queue = action :: queue) (asks : action.caller? = some caller) :
    start.queue <+: handledIn (history moments) := by
  apply trace.drained_of_head head
  intro queued
  obtain ⟨call, there, _⟩ := formed.asked action queued caller asks
  have early : caller < start.calls.length := (List.getElem?_eq_some_iff.mp there).1
  exact absurd early (Nat.not_lt_of_le late)

end Trace

/-- All that the call was told so far is `good`, and without being told it fails only as `fails`
allows. -/
def Call.Informed (good : DispatcherReply → Prop) (fails : Fault → Prop) (call : Call) : Prop :=
  match call.phase with
  | .submitting | .awaiting | .abandoned => True
  | .told reply => good reply
  | .answered outcome => (∃ reply, good reply ∧ reply.outcome? = some outcome) ∨
      ∃ fault, fails fault ∧ outcome = .error fault
  | .reading | .completing _ => False

theorem Call.Informed.mono {good better : DispatcherReply → Prop} {fails : Fault → Prop}
    {call : Call} (informed : call.Informed good fails)
    (implies : ∀ reply, good reply → better reply) :
    call.Informed better fails := by
  obtain ⟨request, phase⟩ := call
  cases phase with
  | submitting | awaiting | abandoned => trivial
  | told reply => exact implies reply informed
  | answered outcome =>
    rcases informed with ⟨reply, told, known⟩ | failed
    · exact .inl ⟨reply, implies reply told, known⟩
    · exact .inr failed
  | reading | completing => exact informed

namespace Broker

structure Informs (broker : Broker World Task) (caller : CallId) (request : Request)
    (good : DispatcherReply → Prop) (fails : Fault → Prop) : Prop where
  down : broker.shutdown = true → fails .cancelled
  closed : ∀ call, broker.calls[caller]? = some call → call.isPending = true →
    broker.dispatcher.accepts = false → fails .dispatcherClosed
  replies : ∀ queue reply, broker.queue = request.action caller :: queue →
    broker.reply? (request.action caller) = some reply → good reply

variable {broker after : Broker World Task} {turn : Turn World} {events : List Event}

theorem informs_of_replies (formed : broker.WellFormed) (up : broker.shutdown = false)
    {id : TransactionId} {run : Run Task} (begun : broker.run? id = some run) {caller : CallId}
    {request : Request} {good : DispatcherReply → Prop} {fails : Fault → Prop}
    (replies : ∀ queue reply, broker.queue = request.action caller :: queue →
      broker.reply? (request.action caller) = some reply → good reply) :
    broker.Informs caller request good fails where
  down := by
    intro down
    cases up.symm.trans down
  closed := by
    intro call there pending gone
    obtain ⟨due, running⟩ := accepts_of_pending formed up begun there pending
    cases (accepts_of_running running).symm.trans gone
  replies := replies

theorem informed_step (formed : broker.WellFormed) {caller : CallId} {request : Request}
    {good : DispatcherReply → Prop} {fails : Fault → Prop}
    (informs : broker.Informs caller request good fails) (ungranted : ¬ good .granted)
    (replied : ∀ id, request ≠ .cancel id) {phase next : Call.Phase}
    (found : broker.calls[caller]? = some { request, phase })
    (informed : ({ request, phase } : Call).Informed good fails)
    (step : CallStep broker after caller { request, phase } turn events next) :
    ({ request, phase := next } : Call).Informed good fails := by
  cases step with
  | kept => exact informed
  | told waits up head asks replies =>
    obtain ⟨call, there, same, _⟩ := formed.asked _ (head ▸ List.mem_cons_self) caller asks
    cases there.symm.trans found
    cases same
    exact informs.replies _ _ head replies
  | progressed progresses =>
    cases progresses with
    | preempted down => exact .inr ⟨_, informs.down down, rfl⟩
    | closed up gone => exact .inr ⟨_, informs.closed _ found rfl gone, rfl⟩
    | cancelQueued => exact absurd rfl (replied _)
    | queued => trivial
    | learned up known => exact .inl ⟨_, informed, known⟩
    | opened => exact absurd informed ungranted
    | stranded | tookProgress | tookLast | unreleased | released => exact informed.elim
  | abandoned => trivial

end Broker

theorem Trace.informed {start last : Broker World Task} {moments : List (Moment World Task)}
    (trace : Trace service start moments last) (formed : start.WellFormed) {caller : CallId}
    {request : Request} {good : DispatcherReply → Prop} {fails : Fault → Prop}
    (ungranted : ¬ good .granted) (replied : ∀ id, request ≠ .cancel id)
    (informs : ∀ moment ∈ moments, moment.broker.Informs caller request good fails)
    (before : ∀ phase, start.calls[caller]? = some { request, phase } →
      ({ request, phase } : Call).Informed good fails) :
    ∀ phase, last.calls[caller]? = some { request, phase } →
      ({ request, phase } : Call).Informed good fails := by
  induction trace with
  | nil => exact before
  | snoc earlier taken ih =>
    intro next found
    have informs' := informs _ (List.mem_append_right _ (List.mem_singleton.mpr rfl))
    have ih := ih fun moment among => informs moment (List.mem_append_left _ among)
    rcases Broker.call_origin taken found with
      ⟨⟨_, phase⟩, there, same, step⟩ | ⟨_, _, fresh, _⟩
    · cases same
      exact Broker.informed_step (earlier.formed formed) informs' ungranted replied there
        (ih phase there) step
    · cases fresh
      trivial

theorem Trace.informed_of_late {start last : Broker World Task}
    {moments : List (Moment World Task)} (trace : Trace service start moments last)
    (formed : start.WellFormed) {caller : CallId} (late : start.calls.length ≤ caller)
    {request : Request} {good : DispatcherReply → Prop} {fails : Fault → Prop}
    (ungranted : ¬ good .granted) (replied : ∀ id, request ≠ .cancel id)
    (informs : ∀ moment ∈ moments, moment.broker.Informs caller request good fails)
    {phase : Call.Phase} (found : last.calls[caller]? = some { request, phase }) :
    ({ request, phase } : Call).Informed good fails := by
  refine trace.informed formed ungranted replied informs (fun phase there => ?_) phase found
  rw [List.getElem?_eq_none late] at there
  cases there

namespace Broker

/-- The call answers with nothing but what is allowed. It is not kept waiting either: once the
dispatcher has nothing to do, the call has. -/
structure Returns (service : Service World Task) (broker : Broker World Task) (caller : CallId)
    (call : Call) (allowed : Outcome → Prop) : Prop where
  answers : ∀ outcome, call.phase = .answered outcome → allowed outcome
  moves : call.isPending = true → broker.dispatch? service = none →
    broker.advanceCall? caller ≠ none

variable {broker : Broker World Task} {caller : CallId} {call : Call}
  {good : DispatcherReply → Prop} {fails : Fault → Prop}

theorem moves_of_informed (formed : broker.WellFormed)
    (roomy : 0 < broker.config.actionQueueCapacity) {id : TransactionId} {run : Run Task}
    (begun : broker.run? id = some run) (found : broker.calls[caller]? = some call)
    (informed : call.Informed good fails) (pending : call.isPending = true)
    (still : broker.dispatch? service = none) : broker.advanceCall? caller ≠ none := by
  intro blocked
  cases up : broker.shutdown with
  | false =>
    obtain ⟨due, running⟩ := accepts_of_pending formed up begun found pending
    have idle := queue_of_blocked running up still
    have room : broker.hasRoom = true := by simp [hasRoom, idle, roomy]
    obtain ⟨_, _, _, reads⟩ := reads_of_blocked formed up (accepts_of_running running) idle room
      found pending blocked
    simp [Call.Informed, reads.phase] at informed
  | true =>
    obtain ⟨request, phase⟩ := call
    cases phase with
    | submitting => simp [advanceCall?, found, submit?, up] at blocked
    | awaiting | told => simp [advanceCall?, found, up] at blocked
    | reading | completing => exact informed
    | answered | abandoned => cases pending

theorem returns_of_informed (formed : broker.WellFormed)
    (roomy : 0 < broker.config.actionQueueCapacity) {id : TransactionId} {run : Run Task}
    (begun : broker.run? id = some run) (found : broker.calls[caller]? = some call)
    (informed : call.Informed good fails) {allowed : Outcome → Prop}
    (replied : ∀ reply outcome, good reply → reply.outcome? = some outcome → allowed outcome)
    (failed : ∀ fault, fails fault → allowed (.error fault)) :
    broker.Returns service caller call allowed := by
  constructor
  case answers =>
    intro outcome answered
    rw [Call.Informed, answered] at informed
    rcases informed with ⟨reply, told, known⟩ | ⟨fault, cause, rfl⟩
    · exact replied reply outcome told known
    · exact failed fault cause
  case moves => exact moves_of_informed formed roomy begun found informed

end Broker

end InstanceBroker
