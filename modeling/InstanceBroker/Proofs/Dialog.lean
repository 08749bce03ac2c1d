import InstanceBroker.Proofs.Isolation.Settle
import InstanceBroker.Server

namespace InstanceBroker

variable {World Task : Type} {service : Service World Task}

def Call.given? (call : Call) : Option Outcome :=
  match call.phase with
  | .answered outcome => some outcome
  | _ => none

namespace Broker

variable {broker after : Broker World Task} {events : List Event}

def given? (broker : Broker World Task) (caller : CallId) : Option Outcome :=
  (broker.calls[caller]?).bind (·.given?)

theorem Progresses.given {caller : CallId} {call : Call} {phase : Call.Phase}
    {actions : List Action} {taken : Option (TransactionId × List ResultValue)}
    (progresses : Progresses broker caller call phase actions taken events) :
    answers events = (({ call with phase } : Call).given?.map (caller, ·)).toList ∧
      call.given? = none := by
  cases progresses with
  | preempted _ open_ => exact ⟨rfl, by rcases open_ with rfl | rfl | ⟨_, rfl⟩ <;> rfl⟩
  | _ => exact ⟨rfl, rfl⟩

theorem given?_eq_of_keeps (kept : ∀ (caller : CallId) (call : Call),
      broker.calls[caller]? = some call →
        ∃ phase, after.calls[caller]? = some { call with phase } ∧
          ({ call with phase } : Call).given? = call.given?)
    (length : after.calls.length = broker.calls.length) (caller : CallId) :
    after.given? caller = broker.given? caller := by
  cases found : broker.calls[caller]? with
  | some call =>
    obtain ⟨phase, there, same⟩ := kept caller call found
    simp only [given?, found, there, Option.bind_some, same]
  | none =>
    have missing : after.calls[caller]? = none := by
      rw [List.getElem?_eq_none_iff] at found ⊢
      rwa [length]
    simp only [given?, found, missing]

theorem given_step {move : Move} (fired : broker.fire? service move = some (after, events)) :
    (answers events = [] ∧ ∀ caller, after.given? caller = broker.given? caller) ∨
      ∃ caller outcome, answers events = [(caller, outcome)] ∧ broker.given? caller = none ∧
        (∃ call, broker.calls[caller]? = some call) ∧
        ∀ other, after.given? other =
          if other = caller then some outcome else broker.given? other := by
  have taken : broker.turn? service (.move move) = some (after, events) := fired
  have length : after.calls.length = broker.calls.length := by
    rcases calls_length taken with same | ⟨_, input, _⟩
    · exact same
    · cases input
  cases turns_of_turn? taken with
  | dispatched _ dispatches =>
    refine .inl ⟨dispatches.answers_eq, given?_eq_of_keeps (fun caller call found => ?_) length⟩
    obtain ⟨phase, there, step⟩ := dispatches.call_step found
    refine ⟨phase, there, ?_⟩
    cases step with
    | kept => rfl
    | told waits => simp only [Call.given?, waits]
  | advanced _ advances =>
    refine .inl ⟨advances.answers_eq, given?_eq_of_keeps (fun caller call found => ?_) length⟩
    refine ⟨call.phase, ?_, rfl⟩
    rw [(advanced_frame ..).1]
    exact found
  | @progressed caller call phase actions reads _ asks progresses =>
    obtain ⟨given, silent⟩ := progresses.given
    have others (other : CallId) (apart : other ≠ caller) :
        (broker.moved caller phase actions reads).given? other = broker.given? other := by
      rw [given?, (moved_frame ..).2.2, calls_setPhase, if_neg apart, given?]
    have own : (broker.moved caller phase actions reads).given? caller =
        ({ call with phase } : Call).given? := by
      rw [given?, (moved_frame ..).2.2, calls_setPhase, if_pos rfl, asks]
      rfl
    have before : broker.given? caller = none := by
      rw [given?, asks]
      exact silent
    cases answered : ({ call with phase } : Call).given? with
    | none =>
      refine .inl ⟨by rw [given, answered]; rfl, fun other => ?_⟩
      by_cases equal : other = caller
      · rw [equal, own, before, answered]
      · exact others other equal
    | some outcome =>
      refine .inr ⟨caller, outcome, by rw [given, answered]; rfl, before, ⟨call, asks⟩,
        fun other => ?_⟩
      by_cases equal : other = caller
      · rw [if_pos equal, equal, own, answered]
      · rw [if_neg equal]
        exact others other equal

end Broker

namespace Server

inductive Happening (World : Type)
  | message (message : Message)
  | elsewhere (connection : Nat) (message : Message)
  | move (move : Move)
  | tick
  | shutdown
  | world (world : World)

structure Exchange (World Task : Type) where
  state : State World Task
  happening : Happening World

namespace State

variable {state after : State World Task}

def overhear (state : State World Task) (connection : Nat) (message : Message) :
    State World Task :=
  { { state with connection }.accept message with
    connection := state.connection, inbox := state.inbox }

def happen? (service : Service World Task) (state : State World Task) :
    Happening World → Option (State World Task)
  | .message message => some (state.accept message)
  | .elsewhere connection message =>
    if connection = state.connection then none else some (state.overhear connection message)
  | .move move => (state.broker.fire? service move).map state.deliver
  | .tick => some { state with broker := state.broker.receive .tick }
  | .shutdown => some { state with broker := state.broker.receive .shutdown }
  | .world world => some { state with broker := { state.broker with world } }

def ask (state : State World Task) (connection : Nat) (envelope : Envelope) : State World Task :=
  { state with
    owners := state.owners ++ [{ connection, id := envelope.id }]
    broker := state.broker.receive (.request envelope.request) }

inductive Happens (service : Service World Task) (state : State World Task) :
    Happening World → State World Task → Prop
  | refused {text : String} {reply : Reply} (unreadable : Envelope.ofFrame text = .error reply) :
      Happens service state (.message (.text text)) { state with inbox := state.inbox ++ [reply] }
  | asked {text : String} {envelope : Envelope} (readable : Envelope.ofFrame text = .ok envelope) :
      Happens service state (.message (.text text)) (state.ask state.connection envelope)
  | askedElsewhere {connection : Nat} {text : String} {envelope : Envelope}
      (apart : connection ≠ state.connection) (readable : Envelope.ofFrame text = .ok envelope) :
      Happens service state (.elsewhere connection (.text text)) (state.ask connection envelope)
  | ignored {happening : Happening World}
      (wordless : ∀ text, happening ≠ .message (.text text)) :
      Happens service state happening state
  | moved {move : Move} {broker : Broker World Task} {events : List Event}
      (fired : state.broker.fire? service move = some (broker, events)) :
      Happens service state (.move move) (state.deliver (broker, events))
  | passed {happening : Happening World} {turn : Turn World} {broker : Broker World Task}
      (wordless : ∀ text, happening ≠ .message (.text text))
      (taken : state.broker.turn? service turn = some (broker, []))
      (calls : broker.calls = state.broker.calls)
      (reachable : broker.reachable = state.broker.reachable)
      (dispatcher : broker.dispatcher = state.broker.dispatcher)
      (down : broker.shutdown = false → state.broker.shutdown = false) :
      Happens service state happening { state with broker }

theorem happens_of_happen? {happening : Happening World}
    (taken : state.happen? service happening = some after) :
    Happens service state happening after := by
  cases happening with
  | message message =>
    cases taken
    cases message with
    | text content =>
      simp only [accept]
      split
      · rename_i unreadable
        exact .refused unreadable
      · rename_i readable
        exact .asked readable
    | binary | ping => exact .ignored nofun
  | elsewhere connection message =>
    simp only [happen?] at taken
    split at taken
    · cases taken
    · rename_i apart
      cases taken
      cases message with
      | text content =>
        simp only [overhear, accept]
        split
        · exact .ignored nofun
        · rename_i readable
          exact .askedElsewhere apart readable
      | binary | ping => exact .ignored nofun
  | move move =>
    obtain ⟨⟨broker, events⟩, fired, rfl⟩ := Option.map_eq_some_iff.mp taken
    exact .moved fired
  | tick =>
    cases taken
    have passes : state.broker.turn? service (.input .tick) =
      some (state.broker.receive .tick, []) := rfl
    exact .passed nofun passes rfl rfl rfl id
  | shutdown =>
    cases taken
    have passes : state.broker.turn? service (.input .shutdown) =
      some (state.broker.receive .shutdown, []) := rfl
    exact .passed nofun passes rfl rfl rfl nofun
  | world world =>
    cases taken
    have passes : state.broker.turn? service (.world world) =
      some ({ state.broker with world }, []) := rfl
    exact .passed nofun passes rfl rfl rfl id

/-- A server with a broker that runs and is in reach, in which nobody gives up a call. -/
structure Serving (state : State World Task) : Prop where
  reachable : state.broker.reachable = true
  running : state.broker.shutdown = false → ∃ due, state.broker.dispatcher = .running due
  present : ∀ call ∈ state.broker.calls, call.phase ≠ .abandoned
  owned : state.owners.length = state.broker.calls.length

def opened (config : Config) (origin : Timestamp) (world : World)
    (thrownAway : List TransactionId) (connection : Nat) : State World Task where
  broker := (Broker.fresh config origin world thrownAway).startDispatcher
  connection

theorem serving_opened (config : Config) (origin : Timestamp) (world : World)
    (thrownAway : List TransactionId) (connection : Nat) :
    (opened config origin world thrownAway connection : State World Task).Serving where
  reachable := rfl
  running _ := ⟨_, rfl⟩
  present call among := by cases among
  owned := rfl

theorem broker_ask (reachable : state.broker.reachable = true) (connection : Nat)
    (envelope : Envelope) : (state.ask connection envelope).broker =
      { state.broker with calls := state.broker.calls ++ [{ request := envelope.request }] } := by
  simp only [ask, Broker.receive, reachable, if_true]

theorem Serving.ask (serving : state.Serving) (connection : Nat) (envelope : Envelope) :
    (state.ask connection envelope).Serving := by
  have broker := broker_ask serving.reachable connection envelope
  refine ⟨by rw [broker]; exact serving.reachable, by rw [broker]; exact serving.running,
    ?_, ?_⟩
  · rw [broker]
    intro call among
    rcases List.mem_append.mp among with old | new
    · exact serving.present call old
    · rw [List.mem_singleton.mp new]
      exact nofun
  · rw [broker]
    simp only [State.ask, List.length_append, serving.owned, List.length_singleton]

theorem Serving.deliver (serving : state.Serving) {move : Move} {broker : Broker World Task}
    {events : List Event} (fired : state.broker.fire? service move = some (broker, events)) :
    (state.deliver (broker, events)).Serving := by
  have taken : state.broker.turn? service (.move move) = some (broker, events) := fired
  obtain ⟨shutdown, reachable, running⟩ := Broker.settings_of_fire? fired
  refine ⟨reachable.trans serving.reachable, fun up => ?_, fun next among => ?_, ?_⟩
  · have up : state.broker.shutdown = false := shutdown ▸ up
    exact running (serving.running up) up (by simp [Broker.hasSenders, serving.reachable])
  · obtain ⟨caller, found⟩ := List.mem_iff_getElem?.mp among
    rcases Broker.call_origin taken found with ⟨call, before, _, step⟩ | ⟨_, input, _⟩
    · have present := serving.present call (List.mem_of_getElem? before)
      generalize next.phase = phase at step ⊢
      cases step with
      | kept => exact present
      | told => exact fun same => by cases same
      | progressed progresses => cases progresses <;> exact fun same => by cases same
    · cases input
  · rcases Broker.calls_length taken with same | ⟨_, input, _⟩
    · exact serving.owned.trans same.symm
    · cases input

theorem Serving.step (serving : state.Serving) {happening : Happening World}
    (taken : state.happen? service happening = some after) : after.Serving := by
  cases happens_of_happen? taken with
  | refused => exact ⟨serving.reachable, serving.running, serving.present, serving.owned⟩
  | asked | askedElsewhere => exact serving.ask ..
  | ignored => exact serving
  | moved fired => exact serving.deliver fired
  | passed _ _ calls reachable dispatcher down =>
    refine ⟨reachable.trans serving.reachable, fun up => ?_,
      fun call among => serving.present call (calls ▸ among), ?_⟩
    · rw [dispatcher]
      exact serving.running (down up)
    · rw [calls]
      exact serving.owned

end State

/-- What a server goes through while a connection is open. -/
inductive Dialog (service : Service World Task) (start : State World Task) :
    List (Exchange World Task) → State World Task → Prop
  | nil : Dialog service start [] start
  | snoc {exchanges : List (Exchange World Task)} {state after : State World Task}
      {happening : Happening World} (earlier : Dialog service start exchanges state)
      (taken : state.happen? service happening = some after) :
      Dialog service start (exchanges ++ [⟨state, happening⟩]) after

namespace Dialog

variable {start state last : State World Task} {exchanges : List (Exchange World Task)}

theorem serving (dialog : Dialog service start exchanges last) (serving : start.Serving) :
    last.Serving := by
  induction dialog with
  | nil => exact serving
  | snoc _ taken ih => exact ih.step taken

theorem trace (dialog : Dialog service start exchanges last) :
    ∃ moments, Trace service start.broker moments last.broker := by
  induction dialog with
  | nil => exact ⟨[], .nil⟩
  | @snoc _ state _ _ _ taken ih =>
    obtain ⟨moments, trace⟩ := ih
    cases State.happens_of_happen? taken with
    | refused | ignored => exact ⟨moments, trace⟩
    | @asked _ envelope | @askedElsewhere _ _ envelope =>
      have asks : state.broker.turn? service (.input (.request envelope.request)) =
        some (_, []) := rfl
      exact ⟨_, trace.snoc asks⟩
    | @moved move _ _ fired =>
      have moves : state.broker.turn? service (.move move) = some (_, _) := fired
      exact ⟨_, trace.snoc moves⟩
    | passed _ passes => exact ⟨_, trace.snoc passes⟩

end Dialog

namespace State

variable {state : State World Task}

theorem replies_append (owners : List Owner) (connection : Nat) (first later : List Event) :
    replies owners connection (first ++ later) =
      replies owners connection first ++ replies owners connection later := by
  simp [replies]

theorem deliver_nothing : state.deliver (state.broker, []) = state := by
  simp [deliver, replies]

theorem deliver_deliver (step : Broker.Step World Task) (broker : Broker World Task)
    (events : List Event) :
    (state.deliver step).deliver (broker, events) = state.deliver (broker, step.2 ++ events) := by
  simp [deliver, replies_append]

end State

def Exchange.message? (exchange : Exchange World Task) : Option Message :=
  match exchange.happening with
  | .message message => some message
  | _ => none

def messages (exchanges : List (Exchange World Task)) : List Message :=
  exchanges.filterMap (·.message?)

theorem messages_append (first later : List (Exchange World Task)) :
    messages (first ++ later) = messages first ++ messages later := by
  simp [messages]

namespace Dialog

variable {start last after : State World Task} {exchanges : List (Exchange World Task)}

theorem rest (dialog : Dialog service start exchanges last) :
    ∃ later, messages later = [] ∧
      Dialog service start (exchanges ++ later) (last.deliver (last.broker, [])) := by
  refine ⟨[], rfl, ?_⟩
  rw [State.deliver_nothing, List.append_nil]
  exact dialog

theorem settleWithin (moves : Nat) (dialog : Dialog service start exchanges last) :
    ∃ later, messages later = [] ∧ Dialog service start (exchanges ++ later)
      (last.deliver (last.broker.settleWithin service moves)) := by
  induction moves generalizing exchanges last with
  | zero => exact dialog.rest
  | succ moves ih =>
    simp only [Broker.settleWithin]
    cases next : last.broker.next? service with
    | none => exact dialog.rest
    | some step =>
      obtain ⟨broker, events⟩ := step
      obtain ⟨move, fired⟩ := Broker.fired_of_next? next
      have moved : last.happen? service (.move move) = some (last.deliver (broker, events)) := by
        rw [State.happen?, fired]
        rfl
      obtain ⟨later, silent, settled⟩ := ih (dialog.snoc moved)
      refine ⟨⟨last, .move move⟩ :: later, silent, ?_⟩
      rw [State.deliver_deliver] at settled
      rw [List.append_cons]
      exact settled

theorem settle (dialog : Dialog service start exchanges last) :
    ∃ later, messages later = [] ∧
      Dialog service start (exchanges ++ later) (last.settle service) :=
  dialog.settleWithin _

theorem receive (dialog : Dialog service start exchanges last) (message : Message) :
    ∃ later, messages later = [message] ∧
      Dialog service start (exchanges ++ later) (last.receive service message) := by
  have accepts : last.happen? service (.message message) = some (last.accept message) := rfl
  obtain ⟨later, silent, settled⟩ := (dialog.snoc accepts).settle
  refine ⟨⟨last, .message message⟩ :: later, congrArg (message :: ·) silent, ?_⟩
  rw [List.append_cons]
  exact settled

theorem receiveAll (dialog : Dialog service start exchanges last) (received : List Message) :
    ∃ later, messages later = received ∧ Dialog service start (exchanges ++ later)
      (received.foldl (State.receive service) last) := by
  induction received generalizing exchanges last with
  | nil => exact ⟨[], rfl, by rw [List.append_nil]; exact dialog⟩
  | cons message received ih =>
    obtain ⟨later, first, reached⟩ := dialog.receive message
    obtain ⟨after, rest, further⟩ := ih reached
    refine ⟨later ++ after, by rw [messages_append, first, rest]; rfl, ?_⟩
    exact List.append_assoc .. ▸ further

theorem step (dialog : Dialog service start exchanges last) {frame : Frame}
    (stays : frame.reconnect = false) (unread : frame.reply = none) :
    ∃ later, messages later = frame.messages ∧
      Dialog service start (exchanges ++ later) (last.step service frame).1 := by
  have unmoved : frame.stray.elim last last.turnAway = last := by
    cases frame.stray <;> rfl
  obtain ⟨later, received, reached⟩ := dialog.receiveAll frame.messages
  simp only [State.step, stays, unread, unmoved, Bool.false_eq_true, if_false, Option.bind_none]
  split
  · have closes : (frame.messages.foldl (State.receive service) last).happen? service .shutdown =
      some _ := rfl
    obtain ⟨after, silent, settled⟩ := (reached.snoc closes).settle
    rw [List.append_assoc, List.append_assoc] at settled
    refine ⟨_, ?_, settled⟩
    rw [messages_append, messages_append, received, silent]
    exact List.append_nil _
  · exact ⟨later, received, reached⟩

end Dialog

end Server

end InstanceBroker
