import InstanceBroker.Proofs.Transition

namespace InstanceBroker

variable {World Task : Type}

inductive Turn (World : Type)
  | move (move : Move)
  | input (input : Input)
  | world (world : World)

/-- A turn, with the broker that took it and the events it made. -/
structure Moment (World Task : Type) where
  broker : Broker World Task
  turn : Turn World
  events : List Event

def history (moments : List (Moment World Task)) : List Event := moments.flatMap (·.events)

@[simp] theorem history_append (first later : List (Moment World Task)) :
    history (first ++ later) = history first ++ history later := by simp [history]

@[simp] theorem history_singleton (moment : Moment World Task) :
    history [moment] = moment.events := by simp [history]

def Moment.isOwn (id : TransactionId) (moment : Moment World Task) : Bool :=
  match moment.turn with
  | .move (.run other) => other == id
  | _ => false

theorem Moment.isOwn_iff {id : TransactionId} {moment : Moment World Task} :
    moment.isOwn id = true ↔ moment.turn = .move (.run id) := by
  unfold isOwn
  split
  · rename_i other turn
    simp [turn]
  · rename_i other
    simpa using other id

namespace Broker

/-- A broker that has just been assembled, with the runs its spawner will throw away. -/
def fresh (config : Config) (origin : Timestamp) (world : World)
    (thrownAway : List TransactionId) : Broker World Task :=
  { Broker.create config origin world with thrownAway }

def turn? (service : Service World Task) (broker : Broker World Task) :
    Turn World → Option (Step World Task)
  | .move move => broker.fire? service move
  | .input input => some (broker.receive input, [])
  | .world world => some ({ broker with world }, [])

/-- What a turn is: a move of the dispatcher, of a run or of a call, or something from outside. -/
inductive Turns (service : Service World Task) (broker : Broker World Task) :
    Turn World → Broker World Task → List Event → Prop
  | dispatched {after : Broker World Task} {events : List Event}
      (running : ∃ due, broker.dispatcher = .running due)
      (dispatches : Dispatches service broker after events) :
      Turns service broker (.move .dispatcher) after events
  | advanced {id : TransactionId} {run next : Run Task} {world : World} {events : List Event}
      (moves : broker.run? id = some run)
      (advances : Advances service broker id run world next events) :
      Turns service broker (.move (.run id)) ({ broker with world }.mapRun id fun _ => next) events
  | progressed {caller : CallId} {call : Call} {phase : Call.Phase} {actions : List Action}
      {taken : Option (TransactionId × List ResultValue)} {events : List Event}
      (asks : broker.calls[caller]? = some call)
      (progresses : Progresses broker caller call phase actions taken events) :
      Turns service broker (.move (.call caller)) (broker.moved caller phase actions taken) events
  | received {input : Input} : Turns service broker (.input input) (broker.receive input) []
  | changed {world : World} : Turns service broker (.world world) { broker with world } []

theorem turns_of_turn? {service : Service World Task} {broker after : Broker World Task}
    {turn : Turn World} {events : List Event}
    (taken : broker.turn? service turn = some (after, events)) :
    Turns service broker turn after events := by
  cases turn with
  | move move =>
    cases move with
    | dispatcher =>
      obtain ⟨running, dispatches⟩ := dispatches_of_dispatch? taken
      exact .dispatched running dispatches
    | run id =>
      obtain ⟨_, _, _, moves, advances, rfl⟩ := advances_of_advanceRun? taken
      exact .advanced moves advances
    | call caller =>
      obtain ⟨_, _, _, _, asks, progresses, rfl⟩ := progresses_of_advanceCall? taken
      exact .progressed asks progresses
  | input input =>
    cases taken
    exact .received
  | world world =>
    cases taken
    exact .changed

def follow? (service : Service World Task) (broker : Broker World Task) :
    List (Turn World) → Option (List (Moment World Task) × Broker World Task)
  | [] => some ([], broker)
  | turn :: rest => do
    let (after, events) ← broker.turn? service turn
    let (moments, last) ← after.follow? service rest
    return ({ broker, turn, events } :: moments, last)

end Broker

/-- What a broker goes through, and the broker that comes out. -/
inductive Trace (service : Service World Task) (start : Broker World Task) :
    List (Moment World Task) → Broker World Task → Prop
  | nil : Trace service start [] start
  | snoc {moments : List (Moment World Task)} {broker after : Broker World Task}
      {turn : Turn World} {events : List Event} (earlier : Trace service start moments broker)
      (taken : broker.turn? service turn = some (after, events)) :
      Trace service start (moments ++ [⟨broker, turn, events⟩]) after

namespace Trace

variable {service : Service World Task} {start middle last : Broker World Task}
  {first later moments : List (Moment World Task)}

theorem append (earlier : Trace service start first middle)
    (next : Trace service middle later last) : Trace service start (first ++ later) last := by
  induction next with
  | nil => simpa using earlier
  | snoc _ taken ih => simpa using ih.snoc taken

theorem single {turn : Turn World} {events : List Event}
    (taken : start.turn? service turn = some (last, events)) :
    Trace service start [{ broker := start, turn, events }] last := nil.snoc taken

theorem of_follow? {turns : List (Turn World)}
    (followed : start.follow? service turns = some (moments, last)) :
    Trace service start moments last := by
  induction turns generalizing start moments with
  | nil => cases followed; exact .nil
  | cons turn rest ih =>
    simp only [Broker.follow?, Option.bind_eq_bind, Option.bind_eq_some_iff] at followed
    obtain ⟨⟨after, events⟩, taken, ⟨later, _⟩, followed, done⟩ := followed
    cases done
    exact (single taken).append (ih followed)

theorem split_at {moment : Moment World Task}
    (trace : Trace service start (first ++ moment :: later) last) :
    ∃ after, Trace service start first moment.broker ∧
      moment.broker.turn? service moment.turn = some (after, moment.events) ∧
      Trace service after later last := by
  generalize whole : first ++ moment :: later = moments at trace
  induction trace generalizing later with
  | nil => exact absurd whole (by simp)
  | @snoc moments broker after turn events earlier taken ih =>
    rcases List.eq_nil_or_concat later with rfl | ⟨later, final, rfl⟩
    · obtain ⟨rfl, same⟩ := List.append_inj' whole rfl
      cases same
      exact ⟨after, earlier, taken, .nil⟩
    · have longer :
          (first ++ moment :: later) ++ [final] = moments ++ [⟨broker, turn, events⟩] := by
        simpa using whole
      obtain ⟨shorter, same⟩ := List.append_inj' longer rfl
      cases same
      obtain ⟨between, before, fired, rest⟩ := ih shorter
      exact ⟨between, before, fired, by simpa using rest.snoc taken⟩

theorem eq_of_nil (trace : Trace service start [] last) : last = start := by
  generalize none : [] = moments at trace
  cases trace with
  | nil => rfl
  | snoc => simp at none

theorem split_head {moment : Moment World Task}
    (trace : Trace service start (moment :: later) last) :
    moment.broker = start ∧ ∃ after,
      start.turn? service moment.turn = some (after, moment.events) ∧
        Trace service after later last := by
  rw [← List.nil_append (moment :: later)] at trace
  obtain ⟨after, before, fired, rest⟩ := trace.split_at
  cases before.eq_of_nil
  exact ⟨rfl, after, fired, rest⟩

theorem split {moment : Moment World Task} (trace : Trace service start moments last)
    (among : moment ∈ moments) :
    ∃ first later after, moments = first ++ moment :: later ∧
      Trace service start first moment.broker ∧
      moment.broker.turn? service moment.turn = some (after, moment.events) ∧
      Trace service after later last := by
  obtain ⟨first, later, rfl⟩ := List.append_of_mem among
  obtain ⟨after, before, fired, rest⟩ := trace.split_at
  exact ⟨first, later, after, rfl, before, fired, rest⟩

end Trace

end InstanceBroker
