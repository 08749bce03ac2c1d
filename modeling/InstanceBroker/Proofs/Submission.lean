import InstanceBroker.Proofs.Rivalry
import InstanceBroker.Proofs.Shutdown

namespace InstanceBroker

variable {World Task : Type} {service : Service World Task}

def submissions (events : List Event) : List (CallId × Action) :=
  events.filterMap fun
    | .accepted caller action => some (caller, action)
    | _ => none

def submittedBy (caller : CallId) (events : List Event) : List Action :=
  events.filterMap fun
    | .accepted other action => if other = caller then some action else none
    | _ => none

/-- The submissions that the dispatcher has got to: as many as it has handled. -/
def carriedOut (events : List Event) : List (CallId × Action) :=
  (submissions events).take (handledIn events).length

@[simp] theorem submittedBy_append (caller : CallId) (first later : List Event) :
    submittedBy caller (first ++ later) = submittedBy caller first ++ submittedBy caller later := by
  simp [submittedBy]

theorem actions_submissions (events : List Event) :
    (submissions events).map (·.2) = acceptedIn events := by
  simp only [submissions, acceptedIn, List.map_filterMap]
  congr 1
  funext event
  cases event <;> rfl

theorem count_submissions (events : List Event) (caller : CallId) (action : Action) :
    (submissions events).count (caller, action) = (submittedBy caller events).count action := by
  simp only [submissions, submittedBy, List.count, List.countP_filterMap]
  congr 1
  funext event
  cases event with
  | accepted other accepted =>
    rw [Bool.eq_iff_iff]
    by_cases same : other = caller <;> simp [same]
  | _ => rfl

theorem mem_submissions {events : List Event} {caller : CallId} {action : Action} :
    (caller, action) ∈ submissions events ↔ action ∈ submittedBy caller events := by
  rw [← List.count_pos_iff, ← List.count_pos_iff, count_submissions]

theorem submittedBy_quiet {caller : CallId} {events : List Event}
    (quiet : ∀ event ∈ events, event.call? ≠ some caller) :
    submittedBy caller events = [] := by
  simp only [submittedBy, List.filterMap_eq_nil_iff]
  intro event among
  have apart := quiet event among
  cases event with
  | accepted other action => exact if_neg fun equal => apart (congrArg some equal)
  | _ => rfl

def Request.actions (caller : CallId) (request : Request) : List Action :=
  match request with
  | .collect _ transaction => [request.action caller, .complete transaction]
  | _ => [request.action caller]

theorem Request.actions_nodup (caller : CallId) (request : Request) :
    (request.actions caller).Nodup := by
  cases request <;> simp [actions, action]

theorem Request.eq_initiate_of_actions {caller other : CallId} {operation : Operation}
    {request : Request} (among : .start operation caller ∈ request.actions other) :
    other = caller ∧ request = .initiate operation := by
  cases request with
  | initiate =>
    cases List.mem_singleton.mp among
    exact ⟨rfl, rfl⟩
  | collect => simp [actions, action] at among
  | cancel | listTransactions => cases List.mem_singleton.mp among

theorem Request.eq_caller_of_actions {caller other : CallId} {request : Request} {action : Action}
    (among : action ∈ request.actions other) (asks : action.caller? = some caller) :
    other = caller := by
  cases request with
  | collect kind transaction =>
    rcases List.mem_cons.mp among with rfl | last
    · exact Option.some.inj asks
    · cases List.mem_singleton.mp last
      cases asks
  | initiate | listTransactions =>
    cases List.mem_singleton.mp among
    exact Option.some.inj asks
  | cancel =>
    cases List.mem_singleton.mp among
    cases asks

namespace Call

def offer? (call : Call) (caller : CallId) : Option Action :=
  match call.phase, call.request with
  | .submitting, request => some (request.action caller)
  | .completing _, .collect _ transaction => some (.complete transaction)
  | _, _ => none

def Submitted (caller : CallId) (call : Call) (actions : List Action) : Prop :=
  match call.phase with
  | .submitting => actions = []
  | .awaiting | .told _ | .reading | .completing _ => actions = [call.request.action caller]
  | .answered _ | .abandoned => actions <+: call.request.actions caller

variable {call : Call} {caller : CallId} {actions : List Action}

theorem Submitted.within (submitted : call.Submitted caller actions) :
    actions <+: call.request.actions caller := by
  obtain ⟨request, phase⟩ := call
  have first : [request.action caller] <+: request.actions caller := by
    cases request <;> simp [Request.actions]
  cases phase with
  | submitting => exact submitted ▸ List.nil_prefix
  | awaiting | told | reading | completing => exact submitted ▸ first
  | answered | abandoned => exact submitted

theorem Submitted.unoffered (submitted : call.Submitted caller actions) {action : Action}
    (offers : call.offer? caller = some action) : action ∉ actions := by
  obtain ⟨request, phase⟩ := call
  cases phase with
  | submitting => exact submitted ▸ List.not_mem_nil
  | completing outcome =>
    cases request with
    | collect kind transaction =>
      cases offers
      have first : actions = [.getResult transaction caller] := submitted
      simp [first]
    | initiate | cancel | listTransactions => cases offers
  | awaiting | told | reading | answered | abandoned => cases request <;> cases offers

theorem pending_of_offer {action : Action} (offers : call.offer? caller = some action) :
    call.isPending = true := by
  obtain ⟨request, phase⟩ := call
  cases phase with
  | submitting | awaiting | told | reading | completing => rfl
  | answered | abandoned => cases request <;> cases offers

end Call

namespace Broker

variable {broker after : Broker World Task} {turn : Turn World} {events : List Event}
  {caller : CallId} {call : Call} {phase : Call.Phase} {actions : List Action}

theorem Progresses.submits {reads : Option (TransactionId × List ResultValue)}
    (progresses : Progresses broker caller call phase actions reads events) :
    submittedBy caller events = actions := by
  cases progresses <;> simp [submittedBy]

theorem submitted_step (submitted : call.Submitted caller actions)
    (step : CallStep broker after caller call turn events phase) :
    ({ call with phase } : Call).Submitted caller (actions ++ submittedBy caller events) := by
  cases step with
  | kept _ quiet =>
    rw [submittedBy_quiet quiet, List.append_nil]
    exact submitted
  | told waits _ _ _ _ quiet =>
    rw [submittedBy_quiet quiet, List.append_nil]
    rw [Call.Submitted, waits] at submitted
    exact submitted
  | progressed progresses =>
    rw [progresses.submits]
    have within := submitted.within
    cases progresses with
    | preempted | closed | stranded | tookProgress | unreleased | learned =>
      rw [List.append_nil]
      exact within
    | cancelQueued =>
      rw [Call.Submitted] at submitted
      subst submitted
      exact List.prefix_rfl
    | queued =>
      rw [Call.Submitted] at submitted
      subst submitted
      rfl
    | opened | tookLast =>
      rw [List.append_nil]
      exact submitted
    | released =>
      -- A release is the second and last action of a call.
      rw [Call.Submitted] at submitted
      subst submitted
      exact List.prefix_rfl
  | abandoned =>
    have nothing : submittedBy caller [] = [] := rfl
    rw [nothing, List.append_nil]
    exact submitted.within

theorem CallStep.silent (step : CallStep broker after caller call turn events phase)
    (closed : call.isPending = false) : submittedBy caller events = [] := by
  cases step with
  | kept _ quiet => exact submittedBy_quiet quiet
  | told waits => simp [Call.isPending, waits] at closed
  | progressed progresses =>
    rw [progresses.pending] at closed
    cases closed
  | abandoned => rfl

/-- The moment at which a call turns away from what it was about to submit: it moves and nothing
gets into the queue, or its caller gives up. -/
def Withholds (turn : Turn World) (events : List Event) (caller : CallId) : Prop :=
  turn = .input (.abandon caller) ∨
    turn = .move (.call caller) ∧ submittedBy caller events = []

theorem closed_of_withholds {action : Action} (offers : call.offer? caller = some action)
    (taken : broker.turn? service turn = some (after, events))
    (found : broker.calls[caller]? = some call) (withholds : Withholds turn events caller) :
    submittedBy caller events = [] ∧
      ∃ next, after.calls[caller]? = some next ∧ next.isPending = false := by
  rcases withholds with rfl | ⟨rfl, nothing⟩
  · cases taken
    have pending := Call.pending_of_offer offers
    refine ⟨rfl, { call with phase := .abandoned }, ?_, rfl⟩
    simp [receive, abandon, found, pending]
  · refine ⟨nothing, ?_⟩
    obtain ⟨phase, there, step⟩ := call_step taken found
    refine ⟨_, there, ?_⟩
    cases step with
    | kept other => exact absurd rfl other
    | progressed progresses =>
      have unqueued := progresses.submits.symm.trans nothing
      cases progresses with
      | preempted | closed | learned | stranded | tookProgress | unreleased => rfl
      | cancelQueued | queued | released => cases unqueued
      | opened | tookLast => cases offers

theorem bounded_step (taken : broker.turn? service turn = some (after, events))
    (bounded : broker.queue.length ≤ broker.config.actionQueueCapacity) :
    after.queue.length ≤ after.config.actionQueueCapacity := by
  rw [(settings_step taken).1]
  cases queue_step taken with
  | kept same => rwa [same]
  | handled up head =>
    rw [head, List.length_cons] at bounded
    exact Nat.le_of_succ_le bounded
  | queued asks progresses result =>
    rw [result, queue_moved, List.length_append]
    cases progresses with
    | cancelQueued _ _ room | queued _ _ room | released _ _ room => exact of_decide_eq_true room
    | _ => exact bounded

theorem unqueued_of_closed (taken : broker.turn? service turn = some (after, events))
    (closed : broker.dispatcher.accepts = false) :
    acceptedIn events = [] ∧ handledIn events = [] := by
  cases turns_of_turn? taken with
  | dispatched running =>
    obtain ⟨due, running⟩ := running
    cases closed.symm.trans (accepts_of_running running)
  | advanced moves advances => exact advances.unqueued
  | progressed asks progresses =>
    obtain ⟨accepted, unhandled⟩ := progresses.queues
    exact ⟨accepted.trans (progresses.unqueued (.inr closed)), unhandled⟩
  | received | changed => exact ⟨rfl, rfl⟩

theorem idle_of_stopped (taken : broker.turn? service turn = some (after, events))
    {ids : List TransactionId} (stopped : .stopped ids ∈ events) (up : broker.shutdown = false) :
    broker.queue = [] ∧ events = [.stopped broker.table.ids] := by
  cases turns_of_turn? taken with
  | dispatched running dispatches =>
    cases dispatches with
    | stopped final =>
      refine ⟨?_, rfl⟩
      rcases final with down | ⟨idle, _⟩
      · rw [up] at down
        cases down
      · exact idle
    | handled _ _ handles => cases handles <;> simp at stopped
    | swept => simp at stopped
  | advanced _ advances => cases advances <;> simp at stopped
  | progressed _ progresses => cases progresses <;> simp at stopped
  | received | changed => cases stopped

end Broker

namespace Trace

variable {start last : Broker World Task} {first later moments : List (Moment World Task)}
  {moment : Moment World Task} {caller : CallId} {call : Call}

theorem silent_of_closed (trace : Trace service start moments last)
    (found : start.calls[caller]? = some call) (closed : call.isPending = false) :
    submittedBy caller (history moments) = [] ∧ last.calls[caller]? = some call := by
  induction trace with
  | nil => exact ⟨rfl, found⟩
  | snoc earlier taken ih =>
    obtain ⟨nothing, found⟩ := ih
    obtain ⟨phase, there, step⟩ := Broker.call_step taken found
    rw [history_append, history_singleton, submittedBy_append, nothing, step.silent closed]
    rw [step.settled closed] at there
    exact ⟨rfl, there⟩

theorem unqueued_of_ended (trace : Trace service start moments last)
    (ended : start.dispatcher = .ended) :
    acceptedIn (history moments) = [] ∧ last.dispatcher = .ended := by
  induction trace with
  | nil => exact ⟨rfl, ended⟩
  | @snoc _ broker _ _ _ _ taken ih =>
    have closed : broker.dispatcher.accepts = false := by rw [ih.2]; rfl
    rw [history_append, history_singleton, acceptedIn_append, ih.1,
      (Broker.unqueued_of_closed taken closed).1]
    exact ⟨rfl, Broker.ended_of_stopped taken (.inr ih.2)⟩

variable {config : Config} {origin : Timestamp} {world : World} {thrownAway : List TransactionId}

theorem submitted (trace : Trace service (.fresh config origin world thrownAway) moments last)
    (caller : CallId) :
    (last.calls[caller]? = none → submittedBy caller (history moments) = []) ∧
      ∀ call, last.calls[caller]? = some call →
        call.Submitted caller (submittedBy caller (history moments)) := by
  induction trace with
  | nil => exact ⟨fun _ => rfl, fun call found => by cases found⟩
  | @snoc moments broker after turn events earlier taken ih =>
    rw [history_append, history_singleton, submittedBy_append]
    cases before : broker.calls[caller]? with
    | some call =>
      obtain ⟨phase, there, step⟩ := Broker.call_step taken before
      rw [there]
      refine ⟨nofun, fun _ same => ?_⟩
      cases same
      exact Broker.submitted_step (ih.2 call before) step
    | none =>
      rw [ih.1 before, submittedBy_quiet (Broker.quiet_missing taken before)]
      refine ⟨fun _ => rfl, fun call found => ?_⟩
      rcases Broker.call_origin taken found with ⟨old, there, _⟩ | ⟨_, _, submitting, _⟩
      · rw [before] at there
        cases there
      · rw [Call.Submitted, submitting]
        rfl

theorem call_of_submitted
    (trace : Trace service (.fresh config origin world thrownAway) moments last) {action : Action}
    (among : (caller, action) ∈ submissions (history moments)) :
    ∃ call, last.calls[caller]? = some call ∧ action ∈ call.request.actions caller := by
  obtain ⟨missing, submitted⟩ := trace.submitted caller
  have among := mem_submissions.mp among
  cases found : last.calls[caller]? with
  | none =>
    rw [missing found] at among
    cases among
  | some call => exact ⟨call, rfl, (submitted call found).within.subset among⟩

theorem submissions_nodup
    (trace : Trace service (.fresh config origin world thrownAway) moments last) :
    (submissions (history moments)).Nodup := by
  refine List.nodup_iff_count.mpr fun ⟨caller, action⟩ => ?_
  rw [count_submissions]
  obtain ⟨missing, submitted⟩ := trace.submitted caller
  cases found : last.calls[caller]? with
  | none => simp [missing found]
  | some call =>
    have single := (submitted call found).within.sublist.nodup (call.request.actions_nodup caller)
    exact List.nodup_iff_count.mp single action

theorem actions_carriedOut
    (trace : Trace service (.fresh config origin world thrownAway) moments last) :
    (carriedOut (history moments)).map (·.2) = handledIn (history moments) := by
  have balance : acceptedIn (history moments) = handledIn (history moments) ++ last.queue :=
    trace.queue_balance
  rw [carriedOut, List.map_take, actions_submissions, balance, List.take_left]

theorem submitted_of_handled
    (trace : Trace service (.fresh config origin world thrownAway) moments last) {action : Action}
    (asks : action.caller? = some caller) (handled : .handled action ∈ history moments) :
    (caller, action) ∈ submissions (history moments) := by
  rw [← mem_handledIn, ← trace.actions_carriedOut] at handled
  obtain ⟨⟨other, _⟩, carried, rfl⟩ := List.mem_map.mp handled
  have submitted := List.mem_of_mem_take carried
  obtain ⟨_, _, within⟩ := trace.call_of_submitted submitted
  exact Request.eq_caller_of_actions within asks ▸ submitted

theorem submittedBy_of_withholds
    (trace : Trace service (.fresh config origin world thrownAway) (first ++ moment :: later) last)
    (found : moment.broker.calls[caller]? = some call) {action : Action}
    (offers : call.offer? caller = some action)
    (withholds : Broker.Withholds moment.turn moment.events caller) :
    submittedBy caller (history (first ++ moment :: later)) =
      submittedBy caller (history first) := by
  obtain ⟨after, _, taken, rest⟩ := trace.split_at
  obtain ⟨nothing, next, there, closed⟩ :=
    Broker.closed_of_withholds offers taken found withholds
  have whole : history (first ++ moment :: later) =
      history first ++ (moment.events ++ history later) := by simp [history]
  rw [whole, submittedBy_append, submittedBy_append, nothing,
    (rest.silent_of_closed there closed).1, List.append_nil, List.append_nil]

theorem unsubmitted_of_withholds
    (trace : Trace service (.fresh config origin world thrownAway) moments last)
    (among : moment ∈ moments) (found : moment.broker.calls[caller]? = some call)
    {action : Action} (offers : call.offer? caller = some action)
    (withholds : Broker.Withholds moment.turn moment.events caller) :
    (caller, action) ∉ submissions (history moments) := by
  obtain ⟨first, later, after, rfl, before, _, _⟩ := trace.split among
  rw [mem_submissions, trace.submittedBy_of_withholds found offers withholds]
  exact ((before.submitted caller).2 call found).unoffered offers

end Trace

/-- The queue between the calls and the dispatcher neither loses nor invents, neither doubles nor
reorders. -/
structure Orderly (config : Config) (moments : List (Moment World Task))
    (last : Broker World Task) : Prop where
  handled : (carriedOut (history moments)).map (·.2) = handledIn (history moments)
  waiting : (submissions (history moments)).map (·.2) = handledIn (history moments) ++ last.queue
  once : (submissions (history moments)).Nodup
  own : ∀ caller action, (caller, action) ∈ submissions (history moments) →
    ∃ call, last.calls[caller]? = some call ∧ action ∈ call.request.actions caller
  withheld : ∀ moment ∈ moments, ∀ (caller : CallId) (call : Call) (action : Action),
    moment.broker.calls[caller]? = some call → call.offer? caller = some action →
    Broker.Withholds moment.turn moment.events caller →
    (caller, action) ∉ submissions (history moments) ∧
      (action.caller? = some caller → .handled action ∉ history moments)
  bounded : last.queue.length ≤ config.actionQueueCapacity
  /-- A dispatcher that ends because nothing can be asked of it any more has done all that was
  asked, and nothing is left of what it kept. -/
  drained : ∀ first moment later ids, moments = first ++ moment :: later →
    .stopped ids ∈ moment.events → moment.broker.shutdown = false →
    handledIn (history first) = acceptedIn (history moments) ∧ last.table.slots = [] ∧
      ∀ id, moment.broker.table.isLive id = true → last.isSignalled id = true

variable {config : Config} {origin : Timestamp} {world : World} {thrownAway : List TransactionId}
  {moments : List (Moment World Task)} {last : Broker World Task}

/-- However calls and dispatcher take turns, and whoever gives up waiting for room, the dispatcher
gets what was submitted and nothing else. -/
theorem orderly_of_trace
    (trace : Trace service (.fresh config origin world thrownAway) moments last) :
    Orderly config moments last := by
  constructor
  case handled => exact trace.actions_carriedOut
  case waiting => exact (actions_submissions _).trans trace.queue_balance
  case once => exact trace.submissions_nodup
  case own => exact fun caller action among => trace.call_of_submitted among
  case withheld =>
    intro moment among caller call action found offers withholds
    have unsubmitted := trace.unsubmitted_of_withholds among found offers withholds
    exact ⟨unsubmitted, fun asks done => unsubmitted (trace.submitted_of_handled asks done)⟩
  case bounded =>
    have bounded : last.queue.length ≤ last.config.actionQueueCapacity :=
      trace.invariant (Nat.zero_le _) fun bounded taken => Broker.bounded_step taken bounded
    rwa [trace.config_eq] at bounded
  case drained =>
    rintro first moment later ids rfl stopped up
    obtain ⟨after, before, taken, rest⟩ := trace.split_at
    have ended := Broker.ended_of_stopped taken (.inl ⟨ids, stopped⟩)
    obtain ⟨unaccepted, ended⟩ := rest.unqueued_of_ended ended
    obtain ⟨idle, events⟩ := Broker.idle_of_stopped taken stopped up
    refine ⟨?_, ?_, fun id live => ?_⟩
    · have drained : acceptedIn (history first) = handledIn (history first) := by
        have balance := before.queue_balance
        rw [idle, List.append_nil] at balance
        exact balance
      have whole : history (first ++ moment :: later) =
          history first ++ (moment.events ++ history later) := by simp [history]
      rw [whole, acceptedIn_append, acceptedIn_append, unaccepted, events, drained]
      exact (List.append_nil _).symm
    · refine trace.invariant (fun ended => ?_)
        (fun cleared taken => Broker.cleared_step taken cleared) ended
      cases ended
    · refine (trace.struck_iff id).mpr ⟨moment, ?_, .stopped live stopped⟩
      exact List.mem_append_right _ List.mem_cons_self

def departing : List (Turn Catalogue) :=
  [.input (.request (.initiate .listInstances)), .move (.call 0),
    .input (.request (.initiate (.stop "vm"))), .input (.abandon 1), .input .startDispatcher,
    .move .dispatcher, .move (.call 0), .input (.request (.collect .listInstances 1)),
    .move (.call 2), .input (.abandon 2), .input .close, .move .dispatcher, .move .dispatcher]

theorem orderly_departing : ∃ moments last,
    (Broker.fresh narrow ⟨0, 0⟩ {} []).follow? (Simulated.Plan.service {}) departing =
      some (moments, last) ∧
    submissions (history moments) =
      [(0, .start .listInstances 0), (2, .getResult 1 2)] ∧
    moments.map (·.broker.queue.length) = [0, 0, 1, 1, 1, 1, 0, 0, 0, 1, 1, 1, 0] ∧
    (history moments).getLast? = some (.stopped [1]) ∧
    Orderly narrow moments last := by
  have runs : ∃ moments last,
      (Broker.fresh narrow ⟨0, 0⟩ {} []).follow? (Simulated.Plan.service {}) departing =
        some (moments, last) ∧
      submissions (history moments) =
        [(0, .start .listInstances 0), (2, .getResult 1 2)] ∧
      moments.map (·.broker.queue.length) = [0, 0, 1, 1, 1, 1, 0, 0, 0, 1, 1, 1, 0] ∧
      (history moments).getLast? = some (.stopped [1]) :=
    ⟨_, _, rfl, rfl, rfl, rfl⟩
  obtain ⟨moments, last, followed, submitted, queued, final⟩ := runs
  exact ⟨moments, last, followed, submitted, queued, final,
    orderly_of_trace (.of_follow? followed)⟩

end InstanceBroker
