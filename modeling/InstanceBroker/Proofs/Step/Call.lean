import InstanceBroker.Proofs.Step.Run

namespace InstanceBroker.Broker

variable {World Task : Type} {service : Service World Task} {broker after : Broker World Task}

inductive CallStep (broker after : Broker World Task) (id : CallId) (call : Call) :
    Turn World → List Event → Call.Phase → Prop
  | kept {turn : Turn World} {events : List Event} (other : turn ≠ .move (.call id))
      (quiet : ∀ event ∈ events, event.call? ≠ some id)
      (waits : call.phase = .awaiting →
        ∀ action, .handled action ∈ events → action.caller? ≠ some id) :
      CallStep broker after id call turn events call.phase
  | told {action : Action} {queue : List Action} {later : List Event} {reply : DispatcherReply}
      (waits : call.phase = .awaiting) (up : broker.shutdown = false)
      (head : broker.queue = action :: queue) (asks : action.caller? = some id)
      (replies : broker.reply? action = some reply)
      (quiet : ∀ event ∈ .handled action :: later, event.call? ≠ some id) :
      CallStep broker after id call (.move .dispatcher) (.handled action :: later) (.told reply)
  | progressed {phase : Call.Phase} {actions : List Action}
      {taken : Option (TransactionId × List ResultValue)} {events : List Event}
      (progresses : Progresses broker id call phase actions taken events)
      (result : after = broker.moved id phase actions taken) :
      CallStep broker after id call (.move (.call id)) events phase
  | abandoned (pending : call.isPending) :
      CallStep broker after id call (.input (.abandon id)) [] .abandoned

theorem calls_tell (caller : CallId) (reply : DispatcherReply) {id : CallId} {call : Call}
    (found : broker.calls[id]? = some call) :
    ((broker.tell caller reply).1.calls[id]? = some call ∧
      (call.phase = .awaiting → caller ≠ id)) ∨
    (call.phase = .awaiting ∧ caller = id ∧
      (broker.tell caller reply).1.calls[id]? = some { call with phase := .told reply }) := by
  obtain ⟨request, waits, told⟩ | ⟨gone, told⟩ := broker.tell_cases caller reply
  · rw [told, calls_setPhase]
    by_cases equal : id = caller
    · subst equal
      have same : call = { request, phase := .awaiting } := Option.some.inj (found.symm.trans waits)
      subst same
      exact .inr ⟨rfl, rfl, by rw [if_pos rfl, waits]; rfl⟩
    · exact .inl ⟨by rw [if_neg equal, found], fun _ => Ne.symm equal⟩
  · rw [told]
    refine .inl ⟨found, ?_⟩
    rintro waits rfl
    exact gone call found waits

theorem Handles.call {action : Action} {events : List Event} {id : CallId} {call : Call}
    (handles : Handles service broker action after events)
    (found : broker.calls[id]? = some call) :
    (after.calls[id]? = some call ∧ (call.phase = .awaiting → action.caller? ≠ some id)) ∨
    (call.phase = .awaiting ∧ action.caller? = some id ∧ ∃ reply,
      broker.reply? action = some reply ∧
      after.calls[id]? = some { call with phase := .told reply }) := by
  cases handles with
  | @opened operation caller request waits =>
    rw [calls_setPhase]
    by_cases equal : id = caller
    · subst equal
      have same : call = { request, phase := .awaiting } := Option.some.inj (found.symm.trans waits)
      subst same
      refine .inr ⟨rfl, rfl, _, rfl, ?_⟩
      rw [if_pos rfl]
      simp only [opening, waits, Option.map_some]
    · refine .inl ⟨by rw [if_neg equal]; exact found, fun _ same => ?_⟩
      exact equal (Option.some.inj same).symm
  | @orphaned operation caller gone =>
    refine .inl ⟨?_, fun waits same => ?_⟩
    · rw [discard, (signal_frame _).1]
      exact found
    · cases same
      exact gone call found waits
  | @granted transaction caller slot live usable =>
    have replies : broker.reply? (.getResult transaction caller) = some .granted := by
      simp [reply?, Table.access, live, usable]
    have known : ({ broker with table := broker.table.setState transaction .valueReady } :
        Broker World Task).calls[id]? = some call := found
    rcases calls_tell caller .granted known with ⟨same, apart⟩ | ⟨waits, rfl, told⟩
    · exact .inl ⟨same, fun waits equal => apart waits (Option.some.inj equal)⟩
    · exact .inr ⟨waits, rfl, _, replies, told⟩
  | @refused transaction caller fault denied =>
    have replies : broker.reply? (.getResult transaction caller) = some (.refused fault) := by
      simp [reply?, denied]
    rcases calls_tell caller (.refused fault) found with ⟨same, apart⟩ | ⟨waits, rfl, told⟩
    · exact .inl ⟨same, fun waits equal => apart waits (Option.some.inj equal)⟩
    · exact .inr ⟨waits, rfl, _, replies, told⟩
  | @inspected caller =>
    rcases calls_tell caller (.listing broker.table.snapshot) found with
      ⟨same, apart⟩ | ⟨waits, rfl, told⟩
    · exact .inl ⟨same, fun waits equal => apart waits (Option.some.inj equal)⟩
    · exact .inr ⟨waits, rfl, _, rfl, told⟩
  | cancelled =>
    rw [(signal_frame _).1]
    exact .inl ⟨found, fun _ same => by cases same⟩
  | cancelIgnored | completed | completeIgnored =>
    exact .inl ⟨found, fun _ same => by cases same⟩

theorem Handles.quiet {action : Action} {events : List Event}
    (handles : Handles service broker action after events) (id : CallId) :
    ∀ event ∈ events, event.call? ≠ some id := by
  cases handles <;> simp [Event.call?]

theorem Handles.unhandled {action other : Action} {events : List Event}
    (handles : Handles service broker action after events) : .handled other ∉ events := by
  cases handles <;> simp

theorem Dispatches.call_step {events : List Event} {id : CallId} {call : Call}
    (dispatches : Dispatches service broker after events)
    (found : broker.calls[id]? = some call) :
    ∃ phase, after.calls[id]? = some { call with phase } ∧
      CallStep broker after id call (.move .dispatcher) events phase := by
  have other : (Turn.move .dispatcher : Turn World) ≠ .move (.call id) := by simp
  cases dispatches with
  | stopped =>
    rw [stop_frame]
    exact ⟨call.phase, found, .kept other (by simp [Event.call?]) (by simp)⟩
  | @handled action queue _ later up head handles =>
    have quiet : ∀ event ∈ .handled action :: later, event.call? ≠ some id := by
      intro event among
      rcases List.mem_cons.mp among with rfl | among
      · exact nofun
      · exact handles.quiet id event among
    rcases handles.call found with ⟨same, apart⟩ | ⟨waits, asks, reply, replies, told⟩
    · refine ⟨call.phase, same, .kept other quiet fun waits action' among => ?_⟩
      rcases List.mem_cons.mp among with equal | among
      · cases equal; exact apart waits
      · exact absurd among handles.unhandled
    · exact ⟨_, told, .told waits up head asks replies quiet⟩
  | @swept ttl due =>
    rw [sweep_frame]
    exact ⟨call.phase, found, .kept other (by simp [Event.call?]) (by simp)⟩

theorem Progresses.quiet {caller id : CallId} {call : Call} {phase : Call.Phase}
    {actions : List Action} {taken : Option (TransactionId × List ResultValue)}
    {events : List Event} (progresses : Progresses broker caller call phase actions taken events)
    (apart : caller ≠ id) : ∀ event ∈ events, event.call? ≠ some id := by
  cases progresses <;> simp [Event.call?, apart]

theorem Progresses.pending {caller : CallId} {call : Call} {phase : Call.Phase}
    {actions : List Action} {taken : Option (TransactionId × List ResultValue)}
    {events : List Event} (progresses : Progresses broker caller call phase actions taken events) :
    call.isPending = true := by
  cases progresses with
  | preempted down open_ => rcases open_ with rfl | rfl | ⟨reply, rfl⟩ <;> rfl
  | _ => rfl

theorem Progresses.call_step {caller id : CallId} {asking call : Call} {phase : Call.Phase}
    {actions : List Action} {taken : Option (TransactionId × List ResultValue)}
    {events : List Event} (asks : broker.calls[caller]? = some asking)
    (progresses : Progresses broker caller asking phase actions taken events)
    (found : broker.calls[id]? = some call) :
    ∃ next,
      (broker.moved caller phase actions taken).calls[id]? = some { call with phase := next } ∧
      CallStep broker (broker.moved caller phase actions taken) id call
        (.move (.call caller)) events
        next := by
  rw [(moved_frame ..).2.2, calls_setPhase]
  by_cases equal : id = caller
  · subst equal
    have same : asking = call := Option.some.inj (asks.symm.trans found)
    subst same
    exact ⟨phase, by rw [if_pos rfl, found]; rfl, .progressed progresses rfl⟩
  · refine ⟨call.phase, by rw [if_neg equal, found], .kept ?_ ?_ ?_⟩
    · simpa using Ne.symm equal
    · exact progresses.quiet (Ne.symm equal)
    · intro _ action among
      cases progresses <;> simp at among

theorem calls_receive (input : Input) {id : CallId} {call : Call}
    (found : broker.calls[id]? = some call) :
    (broker.receive input).calls[id]? = some call ∨
      input = .abandon id ∧ call.isPending ∧
        (broker.receive input).calls[id]? = some { call with phase := .abandoned } := by
  cases input with
  | request request =>
    left
    simp only [receive]
    split
    · rw [List.getElem?_append_left (List.getElem?_eq_some_iff.mp found).1, found]
    · exact found
  | startDispatcher => left; simp only [receive, startDispatcher]; split <;> exact found
  | dropDispatcher => left; simp only [receive, dropDispatcher]; split <;> exact found
  | tick | shutdown | close => exact .inl found
  | abandon other =>
    simp only [receive, abandon, List.getElem?_modify, found]
    by_cases equal : other = id
    · subst equal
      by_cases pending : call.isPending
      · exact .inr ⟨rfl, pending, by simp [pending]⟩
      · exact .inl (by simp [pending])
    · exact .inl (by simp [equal])

theorem call_step {turn : Turn World} {events : List Event} {id : CallId} {call : Call}
    (taken : broker.turn? service turn = some (after, events))
    (found : broker.calls[id]? = some call) :
    ∃ phase, after.calls[id]? = some { call with phase } ∧
      CallStep broker after id call turn events phase := by
  cases turns_of_turn? taken with
  | dispatched running dispatches => exact dispatches.call_step found
  | advanced _ advances =>
    refine ⟨call.phase, ?_, .kept (by simp) ?_ ?_⟩
    · rw [(advanced_frame ..).1]
      exact found
    · cases advances <;> simp [Event.call?]
    · cases advances <;> simp
  | progressed asks progresses =>
    exact progresses.call_step asks found
  | @received input =>
    rcases calls_receive input found with same | ⟨rfl, pending, given⟩
    · exact ⟨call.phase, same, .kept (by simp) (by simp) (by simp)⟩
    · exact ⟨_, given, .abandoned pending⟩
  | changed => exact ⟨call.phase, found, .kept (by simp) (by simp) (by simp)⟩

theorem Handles.calls_length {action : Action} {events : List Event}
    (handles : Handles service broker action after events) :
    after.calls.length = broker.calls.length := by
  have told (broker : Broker World Task) (caller : CallId) (reply : DispatcherReply) :
      (broker.tell caller reply).1.calls.length = broker.calls.length := by
    obtain ⟨_, _, told⟩ | ⟨_, told⟩ :=
      broker.tell_cases caller reply <;> simp [told, setPhase]
  cases handles with
  | opened => simp [setPhase, opening]
  | orphaned => rw [discard, (signal_frame _).1]; rfl
  | granted | refused | inspected => exact told ..
  | cancelled => rw [(signal_frame _).1]
  | cancelIgnored | completed | completeIgnored => rfl

theorem calls_length {turn : Turn World} {events : List Event}
    (taken : broker.turn? service turn = some (after, events)) :
    after.calls.length = broker.calls.length ∨
      ∃ request, turn = .input (.request request) ∧ broker.reachable = true ∧
        after = { broker with calls := broker.calls ++ [{ request }] } := by
  cases turns_of_turn? taken with
  | dispatched running dispatches =>
    left
    cases dispatches with
    | stopped => rw [stop_frame]
    | handled up head handles => exact handles.calls_length
    | swept => rw [sweep_frame]
  | advanced =>
    left
    rw [(advanced_frame ..).1]
  | progressed =>
    left
    rw [(moved_frame ..).2.2]
    simp [setPhase]
  | @received input =>
    cases input with
    | request request =>
      simp only [receive]
      split
      · rename_i reachable; exact .inr ⟨request, rfl, reachable, rfl⟩
      · exact .inl rfl
    | startDispatcher => left; simp only [receive, startDispatcher]; split <;> rfl
    | dropDispatcher => left; simp only [receive, dropDispatcher]; split <;> rfl
    | tick | shutdown | close => exact .inl rfl
    | abandon => left; simp [receive, abandon]
  | changed => exact .inl rfl

theorem call_origin {turn : Turn World} {events : List Event} {id : CallId} {next : Call}
    (taken : broker.turn? service turn = some (after, events))
    (found : after.calls[id]? = some next) :
    (∃ call, broker.calls[id]? = some call ∧ call.request = next.request ∧
      CallStep broker after id call turn events next.phase) ∨
    (id = broker.calls.length ∧ turn = .input (.request next.request) ∧
      next.phase = .submitting ∧ broker.reachable = true ∧
      after = { broker with calls := broker.calls ++ [{ request := next.request }] }) := by
  have bound : id < after.calls.length := (List.getElem?_eq_some_iff.mp found).1
  have old (call : Call) (before : broker.calls[id]? = some call) :
      call.request = next.request ∧ CallStep broker after id call turn events next.phase := by
    obtain ⟨phase, there, step⟩ := call_step taken before
    have same : { call with phase } = next := Option.some.inj (there.symm.trans found)
    subst same
    exact ⟨rfl, step⟩
  rcases calls_length taken with equal | ⟨request, rfl, reachable, rfl⟩
  · left
    have before : broker.calls[id]? = some broker.calls[id] :=
      List.getElem?_eq_getElem (equal ▸ bound)
    exact ⟨_, before, old _ before⟩
  · by_cases new : id = broker.calls.length
    · right
      have same : ({ request } : Call) = next := by
        rw [new, List.getElem?_concat_length] at found
        exact Option.some.inj found
      subst same
      exact ⟨new, rfl, rfl, reachable, rfl⟩
    · left
      rw [List.length_append] at bound
      have before : id < broker.calls.length := Nat.lt_of_le_of_ne (Nat.le_of_lt_succ bound) new
      have there : broker.calls[id]? = some broker.calls[id] := List.getElem?_eq_getElem before
      exact ⟨_, there, old _ there⟩

theorem CallStep.settled {turn : Turn World} {events : List Event} {id : CallId} {call : Call}
    {phase : Call.Phase} (step : CallStep broker after id call turn events phase)
    (closed : call.isPending = false) : phase = call.phase := by
  cases step with
  | kept => rfl
  | told waits => simp [Call.isPending, waits] at closed
  | progressed progresses =>
    rw [progresses.pending] at closed
    cases closed
  | abandoned pending =>
    rw [closed] at pending
    cases pending

theorem hasSenders_step {turn : Turn World} {events : List Event}
    (taken : broker.turn? service turn = some (after, events)) (none : broker.hasSenders = false)
    (unreachable : broker.reachable = false → after.reachable = false) :
    after.hasSenders = false := by
  simp only [hasSenders, Bool.or_eq_false_iff, List.any_eq_false, Bool.not_eq_true] at none ⊢
  refine ⟨unreachable none.1, fun next among => ?_⟩
  obtain ⟨id, found⟩ := List.mem_iff_getElem?.mp among
  rcases call_origin taken found with ⟨call, before, asked, step⟩ | ⟨_, _, _, reachable, _⟩
  · have closed := none.2 call (List.mem_of_getElem? before)
    have same : next.phase = call.phase := step.settled closed
    rw [Call.isPending] at closed ⊢
    rw [same]
    exact closed
  · rw [none.1] at reachable
    cases reachable

end InstanceBroker.Broker
