import InstanceBroker.Proofs.Isolation.View

namespace InstanceBroker

variable {World Task : Type} {service : Service World Task}

def answers (events : List Event) : List (CallId × Outcome) :=
  events.filterMap fun
    | .answered caller outcome => some (caller, outcome)
    | _ => none

def Demand.mapWorld {kind : Operation.Kind} (change : World → World) :
    Demand World Task kind → Demand World Task kind
  | .wait => .wait
  | .proceed world task => .proceed (change world) task
  | .report progress task isCreate => .report progress task isCreate
  | .finish world outcome => .finish (change world) outcome

/-- What the service keeps for one transaction can be wiped out of its world: no other transaction
notices, and nothing else is changed on its behalf. -/
structure Service.Separates (service : Service World Task) (id : TransactionId)
    (wipe : World → World) : Prop where
  again : ∀ world, wipe (wipe world) = wipe world
  others : ∀ context operation world task, context.id ≠ id →
    service.step context operation (wipe world) task =
      (service.step context operation world task).mapWorld wipe
  proceeds : ∀ context operation world task next world', context.id = id →
    service.step context operation world task = .proceed world' next → wipe world' = wipe world
  finishes : ∀ context operation world task outcome world', context.id = id →
    service.step context operation world task = .finish world' outcome → wipe world' = wipe world

namespace Broker

variable {broker after : Broker World Task} {id : TransactionId} {wipe : World → World}
  {events : List Event}

def answersBesides (broker : Broker World Task) (id : TransactionId) (events : List Event) :
    List (CallId × Outcome) :=
  ((answers events).filter fun answer => (broker.calls[answer.1]?).any (·.spares id)).map
    fun answer => (broker.place id answer.1, answer.2)

/-- The moves on behalf of the transaction, of its run and of the calls that do not spare it. -/
def Hidden (broker : Broker World Task) (id : TransactionId) : Move → Prop
  | .dispatcher => broker.shutdown = false ∧
      ∃ action queue, broker.queue = action :: queue ∧ action.spares id = false
  | .run transaction => transaction = id
  | .call caller => ∃ call, broker.calls[caller]? = some call ∧ call.spares id = false

theorem Handles.answers_eq {action : Action}
    (handles : Handles service broker action after events) :
    answers events = [] := by
  cases handles <;> rfl

theorem Dispatches.answers_eq (dispatches : Dispatches service broker after events) :
    answers events = [] := by
  cases dispatches with
  | stopped => rfl
  | handled _ _ handles => exact handles.answers_eq
  | swept => exact List.filterMap_eq_nil_iff.mpr (by simp)

theorem Advances.answers_eq {run next : Run Task} {world : World}
    (advances : Advances service broker id run world next events) : answers events = [] := by
  cases advances <;> rfl

theorem Progresses.of_answers {caller : CallId} {call : Call} {phase : Call.Phase}
    {actions : List Action} {taken : Option (TransactionId × List ResultValue)}
    (progresses : Progresses broker caller call phase actions taken events)
    {answer : CallId × Outcome} (among : answer ∈ answers events) : answer.1 = caller := by
  cases progresses <;> simp [answers] at among <;> rw [among]

theorem besides_tell_lost {caller : CallId}
    (lost : ∀ call, broker.calls[caller]? = some call → call.spares id = false)
    (reply : DispatcherReply) :
    (broker.tell caller reply).1.besides id wipe = broker.besides id wipe := by
  obtain ⟨_, _, told⟩ | ⟨_, told⟩ := broker.tell_cases caller reply <;> rw [told]
  exact besides_setPhase_lost lost _

theorem besides_signal_self (broker : Broker World Task) (id : TransactionId)
    (wipe : World → World) :
    (broker.signal id).besides id wipe = broker.besides id wipe :=
  besides_mapRun_self fun _ _ => rfl

theorem besides_changing_table {table : Table}
    (same : table.erase id = broker.table.erase id) :
    ({ broker with table }).besides id wipe = broker.besides id wipe := by
  rw [besides_withTable, same, besides_frame]

theorem besides_changing_queue {queue : List Action}
    (same : queue.filter (·.spares id) = broker.queue.filter (·.spares id)) :
    ({ broker with queue }).besides id wipe = broker.besides id wipe := by
  rw [besides_withQueue, same, besides_frame]

theorem Handles.besides_eq {action : Action} (handles : Handles service broker action after events)
    (lost : action.spares id = false)
    (callers : ∀ caller, action.caller? = some caller →
      ∀ call, broker.calls[caller]? = some call → call.spares id = false) :
    after.besides id wipe = broker.besides id wipe := by
  cases handles with
  | opened | orphaned => cases lost
  | @granted transaction caller =>
    have own : transaction = id := by simpa [Action.spares] using lost
    subst own
    have told := @besides_tell_lost _ _
      { broker with table := broker.table.setState transaction .valueReady } transaction wipe caller
      (callers caller rfl) .granted
    exact told.trans (besides_changing_table (broker.table.erase_setState_self ..))
  | @refused transaction caller => exact besides_tell_lost (callers caller rfl) _
  | @inspected caller => exact besides_tell_lost (callers caller rfl) _
  | @cancelled transaction =>
    have own : transaction = id := by simpa [Action.spares] using lost
    subst own
    rw [← besides_signal_self broker]
    refine besides_changing_table ?_
    rw [(signal_frame _).1]
    exact broker.table.erase_setState_self ..
  | @completed transaction =>
    have own : transaction = id := by simpa [Action.spares] using lost
    subst own
    exact besides_changing_table (broker.table.erase_erase transaction)
  | cancelIgnored | completeIgnored => rfl

theorem besides_moved_lost {caller : CallId} {call : Call}
    (found : broker.calls[caller]? = some call) (lost : call.spares id = false)
    {phase : Call.Phase} {actions : List Action}
    {taken : Option (TransactionId × List ResultValue)}
    (progresses : Progresses broker caller call phase actions taken events) :
    (broker.moved caller phase actions taken).besides id wipe = broker.besides id wipe := by
  have silent : ∀ other, broker.calls[caller]? = some other → other.spares id = false :=
    fun other there => Option.some.inj (found.symm.trans there) ▸ lost
  have unqueued : actions.filter (·.spares id) = [] := by
    cases progresses with
    | @released kind transaction => simpa [Call.spares, Request.spares, Action.spares] using lost
    | cancelQueued => simpa [Call.spares, Request.spares, Action.spares] using lost
    | queued => simpa [Call.spares] using lost
    | _ => rfl
  have unseen : (broker.taking taken).besides id wipe = broker.besides id wipe := by
    cases taken with
    | none => rfl
    | some taken =>
      obtain ⟨transaction, rest⟩ := taken
      have own : transaction = id := by
        cases progresses <;> simpa [Call.spares, Request.spares] using lost
      subst own
      exact besides_mapRun_self fun _ _ => rfl
  have calls : (broker.taking taken).calls = broker.calls := by
    cases taken with
    | none => rfl
    | some taken => exact (broker.mapRun_frame ..).2.2.2.2.2.2.2.2.1
  have queue : (broker.taking taken).queue = broker.queue := by
    cases taken with
    | none => rfl
    | some taken => exact (broker.mapRun_frame ..).2.2.2.2.2.2.1
  rw [moved, besides_setPhase_lost (by rw [calls]; exact silent), ← unseen]
  refine besides_changing_queue ?_
  rw [List.filter_append, unqueued, List.append_nil, queue]

theorem besides_of_hidden (formed : broker.WellFormed) (separates : service.Separates id wipe)
    {move : Move} (hidden : broker.Hidden id move)
    (fired : broker.fire? service move = some (after, events)) :
    after.besides id wipe = broker.besides id wipe ∧ broker.answersBesides id events = [] := by
  have taken : broker.turn? service (.move move) = some (after, events) := fired
  cases turns_of_turn? taken with
  | dispatched running dispatches =>
    obtain ⟨up, action, queue, head, lost⟩ := hidden
    refine ⟨?_, by rw [answersBesides, dispatches.answers_eq]; rfl⟩
    cases dispatches with
    | stopped final =>
      rcases final with down | ⟨idle, _⟩
      · rw [up] at down
        cases down
      · rw [idle] at head
        cases head
    | @handled action' queue' _ later _ head' handles =>
      cases head.symm.trans head'
      -- Whoever asked for the action does not spare the transaction either.
      have callers (caller : CallId) (asks : action.caller? = some caller) (call : Call)
          (found : broker.calls[caller]? = some call) : call.spares id = false := by
        obtain ⟨other, there, same, _⟩ :=
          formed.asked action (head ▸ List.mem_cons_self) caller asks
        cases found.symm.trans there
        rw [Call.spares, ← call.request.spares_action id caller, same, lost]
      rw [handles.besides_eq lost callers]
      refine besides_changing_queue ?_
      rw [head, List.filter_cons_of_neg (by simp [lost])]
    | swept _ idle =>
      rw [idle] at head
      cases head
  | @advanced _ run next world _ moves advances =>
    cases hidden
    refine ⟨?_, by rw [answersBesides, advances.answers_eq]; rfl⟩
    have unseen : wipe world = wipe broker.world := by
      cases advances with
      | proceeded _ demand => exact separates.proceeds _ _ _ _ _ _ rfl demand
      | dropped _ demand | finished _ demand => exact separates.finishes _ _ _ _ _ _ rfl demand
      | _ => rfl
    -- Whatever becomes of the run, its operation is all that is kept of it.
    have operation (found : Run Task) (there : ({ broker with world }).run? id = some found) :
        next.operation = found.operation := by
      cases moves.symm.trans there
      exact advances.operation_eq
    rw [besides_mapRun_self operation, besides_withWorld, unseen]
    rw [besides_frame]
  | @progressed caller call phase actions values _ asks progresses =>
    obtain ⟨call', asks', lost⟩ := hidden
    cases asks.symm.trans asks'
    refine ⟨besides_moved_lost asks lost progresses, ?_⟩
    rw [answersBesides, List.map_eq_nil_iff, List.filter_eq_nil_iff]
    intro answer among
    rw [progresses.of_answers among, asks]
    simp [lost]

end Broker

end InstanceBroker
