import InstanceBroker.Broker.Settle
import InstanceBroker.Message.Wire

namespace InstanceBroker.Server

inductive Expected
  | next
  | numbered (id : UInt64)
deriving DecidableEq, Repr

inductive Message
  | text (content : String)
  | binary (content : String)
  | ping (content : String)
deriving DecidableEq, Repr

/-- What happens in one turn, in this order. -/
structure Frame where
  reconnect : Bool := false
  /-- Somebody else connects and sends what is no handshake. -/
  stray : Option String := none
  messages : List Message := []
  shutdown : Bool := false
  reply : Option Expected := none
deriving Repr

structure Owner where
  connection : Nat
  id : UInt64
deriving DecidableEq, Repr

structure State (World Task : Type) where
  broker : Broker World Task
  connection : Nat := 0
  owners : List Owner := []
  inbox : List Reply := []

variable {World Task : Type}

def State.reconnect (state : State World Task) : State World Task :=
  { state with connection := state.connection + 1, inbox := [] }

def replies (owners : List Owner) (connection : Nat) (events : List Event) : List Reply :=
  events.filterMap fun
    | .answered call outcome => match owners[call]? with
      | some owner =>
        if owner.connection = connection then
          some { id := some owner.id, response := .ofOutcome outcome }
        else none
      | none => none
    | _ => none

def State.turnAway (state : State World Task) (_bytes : String) : State World Task := state

/-- A message comes in. One that is no request is answered at once, without the broker; only texts
are answered at all. -/
def State.accept (state : State World Task) : Message → State World Task
  | .text content =>
    match Envelope.ofFrame content with
    | .error reply => { state with inbox := state.inbox ++ [reply] }
    | .ok envelope =>
      { state with
        owners := state.owners ++ [{ connection := state.connection, id := envelope.id }]
        broker := state.broker.receive (.request envelope.request) }
  | .binary _ | .ping _ => state

def State.deliver (state : State World Task) (step : Broker.Step World Task) :
    State World Task :=
  let (broker, events) := step
  { state with broker, inbox := state.inbox ++ replies state.owners state.connection events }

def State.settle (service : Service World Task) (state : State World Task) : State World Task :=
  state.deliver (state.broker.settle service)

def State.receive (service : Service World Task) (state : State World Task) (message : Message) :
    State World Task :=
  (state.accept message).settle service

def State.shutdown (service : Service World Task) (state : State World Task) : State World Task :=
  state.deliver (state.broker.react service .shutdown)

def State.elapse (service : Service World Task) (state : State World Task) :
    Nat → State World Task
  | 0 => state
  | millis + 1 => (state.deliver (state.broker.react service .tick)).elapse service millis

def Expected.matches (expected : Expected) (reply : Reply) : Bool :=
  match expected with
  | .next => true
  | .numbered id => reply.id = some id

def State.take? (state : State World Task) (expected : Expected) :
    Option (Reply × State World Task) :=
  (state.inbox.find? expected.matches).map fun reply =>
    (reply, { state with inbox := state.inbox.eraseP expected.matches })

def State.step (service : Service World Task) (state : State World Task) (frame : Frame) :
    State World Task × Option Reply :=
  let state := if frame.reconnect then state.reconnect else state
  let state := frame.stray.elim state state.turnAway
  let state := frame.messages.foldl (State.receive service) state
  let state := if frame.shutdown then state.shutdown service else state
  match frame.reply.bind state.take? with
  | some (reply, state) => (state, some reply)
  | none => (state, none)

def State.play (service : Service World Task) (state : State World Task) :
    List Frame → List (Option Reply)
  | [] => []
  | frame :: rest =>
    let (state, reply) := state.step service frame
    reply :: state.play service rest

def start (service : Service World Task) (config : Config) (origin : Timestamp) (world : World) :
    Except Fault (State World Task) :=
  match config.validate with
  | .error e => .error (.config e)
  | .ok config =>
    let broker : Broker World Task := Broker.create config origin world
    .ok (State.settle service { broker := broker.startDispatcher })

def play (service : Service World Task) (config : Config) (origin : Timestamp) (world : World)
    (frames : List Frame) : Except Fault (List (Option Reply)) :=
  (start service config origin world).map fun state => state.play service frames

end InstanceBroker.Server
