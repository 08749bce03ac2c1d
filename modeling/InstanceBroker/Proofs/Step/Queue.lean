import InstanceBroker.Proofs.Step.Run

namespace InstanceBroker.Broker

variable {World Task : Type} {service : Service World Task} {broker after : Broker World Task}

inductive QueueStep (broker after : Broker World Task) : Turn World → List Event → Prop
  | kept {turn : Turn World} {events : List Event} (same : after.queue = broker.queue)
      (unhandled : ∀ action, .handled action ∉ events) : QueueStep broker after turn events
  | handled {action : Action} {later : List Event} (up : broker.shutdown = false)
      (head : broker.queue = action :: after.queue) :
      QueueStep broker after (.move .dispatcher) (.handled action :: later)
  | queued {caller : CallId} {call : Call} {phase : Call.Phase} {actions : List Action}
      {taken : Option (TransactionId × List ResultValue)} {events : List Event}
      (asks : broker.calls[caller]? = some call)
      (progresses : Progresses broker caller call phase actions taken events)
      (result : after = broker.moved caller phase actions taken) :
      QueueStep broker after (.move (.call caller)) events

theorem queue_moved (caller : CallId) (phase : Call.Phase) (actions : List Action)
    (taken : Option (TransactionId × List ResultValue)) :
    (broker.moved caller phase actions taken).queue = broker.queue ++ actions := by
  rw [(moved_frame ..).1]

theorem queue_step {turn : Turn World} {events : List Event}
    (taken : broker.turn? service turn = some (after, events)) :
    QueueStep broker after turn events := by
  cases turns_of_turn? taken with
  | dispatched running dispatches =>
    cases dispatches with
    | stopped =>
      refine .kept ?_ (by simp)
      rw [stop_frame]
    | @handled action queue _ later up head handles =>
      refine .handled up ?_
      rw [handles.frame]
      exact head
    | swept =>
      refine .kept ?_ (by simp)
      rw [sweep_frame]
  | advanced _ advances =>
    refine .kept ?_ fun action => ?_
    · rw [(advanced_frame ..).1]
    · cases advances <;> simp
  | progressed asks progresses => exact .queued asks progresses rfl
  | received =>
    refine .kept ?_ (by simp)
    rw [receive_frame]
  | changed => exact .kept rfl (by simp)

theorem Progresses.unqueued {caller : CallId} {call : Call} {phase : Call.Phase}
    {actions : List Action} {taken : Option (TransactionId × List ResultValue)}
    {events : List Event} (progresses : Progresses broker caller call phase actions taken events)
    (closed : broker.shutdown = true ∨ broker.dispatcher.accepts = false) : actions = [] := by
  cases progresses with
  | cancelQueued up accepts | queued up accepts | released up accepts =>
    rw [up, accepts] at closed
    rcases closed with down | refusing
    · cases down
    · cases refusing
  | _ => rfl

theorem release_step {turn : Turn World} {events : List Event} {id : TransactionId}
    (taken : broker.turn? service turn = some (after, events))
    (queued : .complete id ∈ after.queue) :
    .complete id ∈ broker.queue ∨
      ∃ (caller : CallId) (kind : Operation.Kind) (outcome : Outcome),
        turn = .move (.call caller) ∧
        events = [.accepted caller (.complete id), .answered caller outcome] ∧
        broker.calls[caller]? =
        some { request := .collect kind id, phase := .completing outcome } ∧
        after = broker.moved caller (.answered outcome) [.complete id] none := by
  cases queue_step taken with
  | kept same => exact .inl (same ▸ queued)
  | handled up head => exact .inl (head ▸ List.mem_cons_of_mem _ queued)
  | @queued caller _ _ _ _ _ asks progresses result =>
    rw [result, queue_moved] at queued
    rcases List.mem_append.mp queued with old | new
    · exact .inl old
    · cases progresses with
      | @released kind transaction outcome =>
        cases List.mem_singleton.mp new
        exact .inr ⟨caller, kind, outcome, rfl, rfl, asks, result⟩
      | @queued request => cases request <;> cases List.mem_singleton.mp new
      | cancelQueued => cases List.mem_singleton.mp new
      | _ => cases new

theorem handles_of_handled {turn : Turn World} {events : List Event} {action : Action}
    (taken : broker.turn? service turn = some (after, events))
    (handled : .handled action ∈ events) :
    ∃ later, turn = .move .dispatcher ∧ events = .handled action :: later ∧
      broker.shutdown = false ∧ broker.queue = action :: after.queue ∧
      Handles service { broker with queue := after.queue } action after later := by
  cases turns_of_turn? taken with
  | dispatched running dispatches =>
    cases dispatches with
    | stopped => simp at handled
    | @handled first queue _ later up head handles =>
      have queue_eq : after.queue = queue := by rw [handles.frame]
      rcases List.mem_cons.mp handled with equal | among
      · cases equal
        exact ⟨later, rfl, rfl, up, queue_eq ▸ head, queue_eq ▸ handles⟩
      · cases handles <;> simp at among
    | swept => simp at handled
  | advanced _ advances => cases advances <;> simp at handled
  | progressed _ progresses => cases progresses <;> simp at handled
  | received | changed => cases handled

inductive DispatcherStep (broker : Broker World Task) : Dispatcher → Prop
  | kept : DispatcherStep broker broker.dispatcher
  | started (idle : broker.dispatcher = .idle) {due : Nat} : DispatcherStep broker (.running due)
  | dropped (idle : broker.dispatcher = .idle) : DispatcherStep broker .dropped
  | stopped {due : Nat} (running : broker.dispatcher = .running due)
      (final : broker.shutdown = true ∨ broker.queue = [] ∧ broker.hasSenders = false) :
      DispatcherStep broker .ended
  | scheduled {due later : Nat} (running : broker.dispatcher = .running due) :
      DispatcherStep broker (.running later)

theorem dispatcher_step {turn : Turn World} {events : List Event}
    (taken : broker.turn? service turn = some (after, events)) :
    DispatcherStep broker after.dispatcher := by
  cases turns_of_turn? taken with
  | dispatched running dispatches =>
    obtain ⟨due, running⟩ := running
    cases dispatches with
    | stopped final => exact .stopped running final
    | handled up head handles =>
      rw [handles.frame]
      exact .kept
    | swept => exact .scheduled running
  | advanced =>
    rw [(advanced_frame ..).1]
    exact .kept
  | progressed =>
    rw [(moved_frame ..).1]
    exact .kept
  | @received input =>
    cases input with
    | request request => simp only [receive]; split <;> exact .kept
    | startDispatcher =>
      simp only [receive, startDispatcher]
      split
      · rename_i idle; exact .started idle
      · exact .kept
    | dropDispatcher =>
      simp only [receive, dropDispatcher]
      split
      · rename_i idle; exact .dropped idle
      · exact .kept
    | tick | shutdown | close | abandon => exact .kept
  | changed => exact .kept

/-- The settings stay as they are, shutdown is for good and no call comes in once the broker is out
of reach. -/
theorem settings_step {turn : Turn World} {events : List Event}
    (taken : broker.turn? service turn = some (after, events)) :
    after.config = broker.config ∧ after.thrownAway = broker.thrownAway ∧
      after.origin = broker.origin ∧ (broker.shutdown = true → after.shutdown = true) ∧
      (broker.reachable = false → after.reachable = false) := by
  cases turns_of_turn? taken with
  | dispatched running dispatches =>
    cases dispatches with
    | stopped =>
      rw [stop_frame]
      exact ⟨rfl, rfl, rfl, id, id⟩
    | handled up head handles =>
      rw [handles.frame]
      exact ⟨rfl, rfl, rfl, id, id⟩
    | swept =>
      rw [sweep_frame]
      exact ⟨rfl, rfl, rfl, id, id⟩
  | advanced =>
    rw [(advanced_frame ..).1]
    exact ⟨rfl, rfl, rfl, id, id⟩
  | progressed =>
    rw [(moved_frame ..).1]
    exact ⟨rfl, rfl, rfl, id, id⟩
  | @received input =>
    cases input with
    | shutdown => exact ⟨rfl, rfl, rfl, fun _ => rfl, id⟩
    | close => exact ⟨rfl, rfl, rfl, id, fun _ => rfl⟩
    | request request =>
      simp only [receive]
      split <;> exact ⟨rfl, rfl, rfl, id, id⟩
    | startDispatcher =>
      simp only [receive, startDispatcher]
      split <;> exact ⟨rfl, rfl, rfl, id, id⟩
    | dropDispatcher =>
      simp only [receive, dropDispatcher]
      split <;> exact ⟨rfl, rfl, rfl, id, id⟩
    | tick | abandon => exact ⟨rfl, rfl, rfl, id, id⟩
  | changed => exact ⟨rfl, rfl, rfl, id, id⟩

theorem clock_step {turn : Turn World} {events : List Event}
    (taken : broker.turn? service turn = some (after, events)) : broker.clock ≤ after.clock := by
  cases turns_of_turn? taken with
  | dispatched running dispatches =>
    cases dispatches with
    | stopped => exact Nat.le_of_eq (by rw [stop_frame])
    | handled up head handles => exact Nat.le_of_eq (by rw [handles.frame])
    | swept => exact Nat.le_of_eq (by rw [sweep_frame])
  | advanced => exact Nat.le_of_eq (by rw [(advanced_frame ..).1])
  | progressed => exact Nat.le_of_eq (by rw [(moved_frame ..).1])
  | @received input =>
    cases input with
    | tick => exact Nat.le_add_right ..
    | request request => simp only [receive]; split <;> exact Nat.le_refl _
    | startDispatcher => simp only [receive, startDispatcher]; split <;> exact Nat.le_refl _
    | dropDispatcher => simp only [receive, dropDispatcher]; split <;> exact Nat.le_refl _
    | shutdown | close | abandon => exact Nat.le_refl _
  | changed => exact Nat.le_refl _

end InstanceBroker.Broker
