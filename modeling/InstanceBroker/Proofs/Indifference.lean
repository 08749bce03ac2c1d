import InstanceBroker.Proofs.Reply
import InstanceBroker.Proofs.Termination
import InstanceBroker.Proofs.Withdrawal.Schedule

namespace InstanceBroker

variable {World Task : Type} {service : Service World Task}

namespace Broker

structure Halts (service : Service World Task) (settling : Settling World Task) : Prop where
  settled : ∀ {broker last : Broker World Task} {events : List Event}, broker.Paced →
    settling broker events last → last.Settled service ∧ last.Paced
  still : ∀ {broker last : Broker World Task} {events : List Event}, broker.Settled service →
    (settling broker events last ↔ events = [] ∧ last = broker)

theorem Settles.paced {broker last : Broker World Task} {events : List Event}
    (settles : Settles service broker events last) (paced : broker.Paced) : last.Paced := by
  have drifts : Drifts service broker events last := settles.chain.drifts fun _ _ => id
  exact drifts.paced paced

theorem halts_settles : Halts service (Settles service) where
  settled paced settles := ⟨settles.settled, settles.paced paced⟩
  still {broker last events} settled := by
    constructor
    · exact fun settles => settles.of_settled settled
    · rintro ⟨rfl, rfl⟩
      exact .still settled

theorem halts_settlesInOrder (tires : service.Tires) : Halts service (SettlesInOrder service) where
  settled {broker last events} paced settles := by
    have settled := settles_settle tires paced
    rw [settles] at settled
    exact ⟨settled.settled, settled.paced paced⟩
  still {broker last events} settled := by
    have still : broker.settle service = (broker, []) := settleWithin_of_settled settled _
    rw [SettlesInOrder, still, Prod.mk.injEq]
    constructor
    · rintro ⟨rfl, rfl⟩
      exact ⟨rfl, rfl⟩
    · rintro ⟨rfl, rfl⟩
      exact ⟨rfl, rfl⟩

end Broker

namespace Server

open Broker (Settling Settles SettlesInOrder Halts)
open Json (inBraces inQuotes)

def Message.isMute : Message → Bool
  | .text _ => false
  | .binary _ | .ping _ => true

abbrev Turnaround (World : Type) := Happening World × List Reply

namespace State

def emptied (state : State World Task) : State World Task := { state with inbox := [] }

/-- Things happen one after the other, and the broker settles and the client takes its replies after
each. -/
inductive Attends (service : Service World Task) (settling : Settling World Task) :
    State World Task → List (Turnaround World) → State World Task → Prop
  | nil {state : State World Task} : Attends service settling state [] state
  | cons {state middle last : State World Task} {happening : Happening World}
      {broker : Broker World Task} {events : List Event} {record : List (Turnaround World)}
      (taken : state.emptied.happen? service happening = some middle)
      (settles : settling middle.broker events broker)
      (rest : Attends service settling (middle.deliver (broker, events)) record last) :
      Attends service settling state
        ((happening, (middle.deliver (broker, events)).inbox) :: record) last

variable {settling : Settling World Task} {state middle after last last' : State World Task}
  {record record' : List (Turnaround World)} {happening : Happening World}

theorem Attends.congr (attends : Attends service settling state record last)
    (same : after.emptied = state.emptied) :
    ∃ last', Attends service settling after record last' ∧ last'.emptied = last.emptied := by
  cases attends with
  | nil => exact ⟨after, .nil, same⟩
  | cons taken settles rest => exact ⟨_, .cons (same ▸ taken) settles rest, rfl⟩

theorem paced_happen (paced : state.broker.Paced)
    (taken : state.emptied.happen? service happening = some after) : after.broker.Paced := by
  cases happens_of_happen? taken with
  | refused | ignored => exact paced
  | @asked _ envelope | @askedElsewhere _ _ envelope =>
    have asks : state.broker.turn? service (.input (.request envelope.request)) =
      some (_, []) := rfl
    exact Broker.paced_step paced asks
  | @moved move _ _ fired =>
    have moves : state.broker.turn? service (.move move) = some (_, _) := fired
    exact Broker.paced_step paced moves
  | passed _ passes => exact Broker.paced_step paced passes

end State

def refusal (text : String) (problem : Json.Problem) : Reply where
  id := Json.naturalMember? "id" text
  response := .error .invalidRequest ("Invalid request format: " ++ problem.text)

/-- What happens, with frames put in between that are no requests. -/
inductive Inserted : List (Happening World) → List (Happening World) → Prop
  | nil : Inserted [] []
  | kept (happening : Happening World) {originals padded : List (Happening World)}
      (rest : Inserted originals padded) : Inserted (happening :: originals) (happening :: padded)
  | refused {text : String} {problem : Json.Problem} {originals padded : List (Happening World)}
      (unreadable : Envelope.codec.read text = .error problem) (rest : Inserted originals padded) :
      Inserted originals (.message (.text text) :: padded)
  | ignored {message : Message} {originals padded : List (Happening World)}
      (mute : message.isMute = true) (rest : Inserted originals padded) :
      Inserted originals (.message message :: padded)

/-- What became of it: a text that was put in gets one reply and a mute frame none, and everything
else gets what it gets without them. -/
inductive Padded : List (Turnaround World) → List (Turnaround World) → Prop
  | nil : Padded [] []
  | kept (item : Turnaround World) {record record' : List (Turnaround World)}
      (rest : Padded record record') : Padded (item :: record) (item :: record')
  | refused {text : String} {problem : Json.Problem} {record record' : List (Turnaround World)}
      (unreadable : Envelope.codec.read text = .error problem) (rest : Padded record record') :
      Padded record ((.message (.text text), [refusal text problem]) :: record')
  | ignored {message : Message} {record record' : List (Turnaround World)}
      (mute : message.isMute = true) (rest : Padded record record') :
      Padded record ((.message message, []) :: record')

namespace State

variable {settling : Settling World Task} {state middle after last last' : State World Task}
  {record record' : List (Turnaround World)} {happening : Happening World}

theorem accept_unreadable {text : String} {problem : Json.Problem}
    (unreadable : Envelope.codec.read text = .error problem) :
    state.emptied.happen? service (.message (.text text)) =
      some { state with inbox := [refusal text problem] } := by
  simp only [happen?, accept, Envelope.ofFrame, unreadable]
  rfl

theorem accept_mute {message : Message} (mute : message.isMute = true) :
    state.emptied.happen? service (.message message) = some state.emptied := by
  cases message with
  | text => cases mute
  | binary | ping => rfl

theorem Attends.drop (halts : Halts service settling) (settled : state.broker.Settled service)
    {replies sent : List Reply}
    (leaves : state.emptied.happen? service happening = some { state with inbox := replies })
    (attends : Attends service settling state ((happening, sent) :: record) last) :
    sent = replies ∧
      ∃ last', Attends service settling state record last' ∧ last'.emptied = last.emptied := by
  cases attends with
  | @cons _ middle _ _ broker events _ taken settles rest =>
    cases leaves.symm.trans taken
    obtain ⟨rfl, rfl⟩ := (halts.still settled).mp settles
    have nothing : ({ state with inbox := replies } : State World Task).deliver
        (state.broker, []) = { state with inbox := replies } := deliver_nothing
    rw [nothing] at rest ⊢
    exact ⟨rfl, rest.congr rfl⟩

theorem Attends.add (halts : Halts service settling) (settled : state.broker.Settled service)
    {replies : List Reply}
    (leaves : state.emptied.happen? service happening = some { state with inbox := replies })
    (attends : Attends service settling state record last) :
    ∃ last', Attends service settling state ((happening, replies) :: record) last' ∧
      last'.emptied = last.emptied := by
  have nothing : ({ state with inbox := replies } : State World Task).deliver
      (state.broker, []) = { state with inbox := replies } := deliver_nothing
  have taken : State.emptied { state with inbox := replies } = state.emptied := rfl
  obtain ⟨last', attends', same⟩ := attends.congr taken
  have still : settling state.broker [] state.broker := (halts.still settled).mpr ⟨rfl, rfl⟩
  have longer := Attends.cons leaves still (nothing.symm ▸ attends')
  rw [nothing] at longer
  exact ⟨last', longer, same⟩

theorem Attends.without (halts : Halts service settling) {originals padded : List (Happening World)}
    (inserted : Inserted originals padded) {state last' : State World Task}
    {record' : List (Turnaround World)} (paced : state.broker.Paced)
    (settled : state.broker.Settled service)
    (attends : Attends service settling state record' last')
    (happened : record'.map (·.1) = padded) :
    ∃ record last, Attends service settling state record last ∧
      record.map (·.1) = originals ∧ Padded record record' ∧ last.emptied = last'.emptied := by
  induction inserted generalizing state record' last' with
  | nil =>
    cases List.map_eq_nil_iff.mp happened
    exact ⟨[], last', attends, rfl, .nil, rfl⟩
  | kept happening _ ih =>
    obtain ⟨⟨_, sent⟩, rest, rfl, rfl, others⟩ := List.map_eq_cons_iff.mp happened
    cases attends with
    | cons taken settles rest =>
      have paced' := paced_happen paced taken
      obtain ⟨settled', paced''⟩ := halts.settled paced' settles
      obtain ⟨record, last, attends, originals, padded, same⟩ := ih paced'' settled' rest others
      exact ⟨_, last, .cons taken settles attends, congrArg _ originals, .kept _ padded, same⟩
  | refused unreadable _ ih =>
    obtain ⟨⟨_, sent⟩, rest, rfl, rfl, others⟩ := List.map_eq_cons_iff.mp happened
    obtain ⟨rfl, middle, fewer, same⟩ :=
      attends.drop halts settled (accept_unreadable unreadable)
    obtain ⟨record, last, attends, originals, padded, same'⟩ := ih paced settled fewer others
    exact ⟨record, last, attends, originals, .refused unreadable padded, same'.trans same⟩
  | ignored mute _ ih =>
    obtain ⟨⟨_, sent⟩, rest, rfl, rfl, others⟩ := List.map_eq_cons_iff.mp happened
    obtain ⟨rfl, middle, fewer, same⟩ := attends.drop halts settled (accept_mute mute)
    obtain ⟨record, last, attends, originals, padded, same'⟩ := ih paced settled fewer others
    exact ⟨record, last, attends, originals, .ignored mute padded, same'.trans same⟩

theorem Attends.padded (halts : Halts service settling) {originals padded : List (Happening World)}
    (inserted : Inserted originals padded) {state last : State World Task}
    {record : List (Turnaround World)} (paced : state.broker.Paced)
    (settled : state.broker.Settled service)
    (attends : Attends service settling state record last)
    (happened : record.map (·.1) = originals) :
    ∃ record' last', Attends service settling state record' last' ∧
      record'.map (·.1) = padded ∧ Padded record record' ∧ last'.emptied = last.emptied := by
  induction inserted generalizing state record last with
  | nil =>
    cases List.map_eq_nil_iff.mp happened
    exact ⟨[], last, attends, rfl, .nil, rfl⟩
  | kept happening _ ih =>
    obtain ⟨⟨_, sent⟩, rest, rfl, rfl, others⟩ := List.map_eq_cons_iff.mp happened
    cases attends with
    | cons taken settles rest =>
      have paced' := paced_happen paced taken
      obtain ⟨settled', paced''⟩ := halts.settled paced' settles
      obtain ⟨record', last', attends, originals, padded, same⟩ :=
        ih paced'' settled' rest others
      exact ⟨_, last', .cons taken settles attends, congrArg _ originals, .kept _ padded, same⟩
  | @refused text problem _ _ unreadable _ ih =>
    obtain ⟨record', middle, attends, rfl, padded, same⟩ := ih paced settled attends happened
    obtain ⟨last', more, same'⟩ := attends.add halts settled (accept_unreadable unreadable)
    exact ⟨_, last', more, rfl, .refused unreadable padded, same'.trans same⟩
  | ignored mute _ ih =>
    obtain ⟨record', middle, attends, rfl, padded, same⟩ := ih paced settled attends happened
    obtain ⟨last', more, same'⟩ := attends.add halts settled (accept_mute mute)
    exact ⟨_, last', more, rfl, .ignored mute padded, same'.trans same⟩

def attend? (service : Service World Task) (state : State World Task) :
    List (Happening World) → Option (List (Turnaround World) × State World Task)
  | [] => some ([], state)
  | happening :: rest => do
    let middle ← state.emptied.happen? service happening
    let after := middle.settle service
    let (record, last) ← after.attend? service rest
    return ((happening, after.inbox) :: record, last)

theorem attend?_eq_some_iff {happenings : List (Happening World)} :
    state.attend? service happenings = some (record, last) ↔
      state.Attends service (SettlesInOrder service) record last ∧
        record.map (·.1) = happenings := by
  induction happenings generalizing state record with
  | nil =>
    simp only [attend?, Option.some.injEq, Prod.mk.injEq, List.map_eq_nil_iff]
    constructor
    · rintro ⟨rfl, rfl⟩
      exact ⟨.nil, rfl⟩
    · rintro ⟨attends, rfl⟩
      cases attends
      exact ⟨rfl, rfl⟩
  | cons happening rest ih =>
    simp only [attend?, Option.bind_eq_bind, Option.bind_eq_some_iff, Prod.exists, Option.pure_def,
      Option.some.injEq, Prod.mk.injEq]
    constructor
    · rintro ⟨middle, taken, record, last, attended, rfl, rfl⟩
      obtain ⟨attends, rfl⟩ := ih.mp attended
      exact ⟨.cons taken rfl attends, rfl⟩
    · rintro ⟨attends, happened⟩
      cases attends with
      | nil => cases happened
      | @cons _ middle _ _ broker events record taken settles attends =>
        obtain ⟨rfl, others⟩ := List.cons.inj happened
        have settled : middle.settle service = middle.deliver (broker, events) :=
          congrArg _ settles
        refine ⟨middle, taken, record, last, ?_, ?_, rfl⟩
        · rw [settled]
          exact ih.mpr ⟨attends, others⟩
        · rw [settled]

theorem accept_emptied (message : Message) : state.accept message =
    { state.emptied.accept message with
      inbox := state.inbox ++ (state.emptied.accept message).inbox } := by
  cases message with
  | text content =>
    simp only [accept]
    cases Envelope.ofFrame content with
    | error reply => rfl
    | ok envelope =>
      simp only [emptied, List.append_nil]
  | binary | ping => simp only [accept, emptied, List.append_nil]

theorem receive_emptied (service : Service World Task) (state : State World Task)
    (message : Message) :
    (state.receive service message).emptied = (state.emptied.receive service message).emptied ∧
      (state.receive service message).inbox =
        state.inbox ++ (state.emptied.receive service message).inbox := by
  simp only [receive, settle, deliver, emptied]
  rw [accept_emptied]
  exact ⟨rfl, List.append_assoc ..⟩

theorem attend?_congr (same : after.emptied = state.emptied) {happenings : List (Happening World)}
    (attended : state.attend? service happenings = some (record, last)) :
    ∃ last', after.attend? service happenings = some (record, last') ∧
      last'.emptied = last.emptied := by
  obtain ⟨attends, happened⟩ := attend?_eq_some_iff.mp attended
  obtain ⟨last', attends', same'⟩ := attends.congr same
  exact ⟨last', attend?_eq_some_iff.mpr ⟨attends', happened⟩, same'⟩

theorem attend?_receive (service : Service World Task) (received : List Message)
    (state : State World Task) :
    ∃ record last, state.attend? service (received.map .message) = some (record, last) ∧
      (received.foldl (receive service) state).emptied = last.emptied ∧
      (received.foldl (receive service) state).inbox = state.inbox ++ record.flatMap (·.2) := by
  induction received generalizing state with
  | nil => exact ⟨[], state, rfl, rfl, (List.append_nil _).symm⟩
  | cons message received ih =>
    obtain ⟨same, inbox⟩ := receive_emptied service state message
    obtain ⟨record, last, attended, same', inbox'⟩ := ih (state.receive service message)
    obtain ⟨last', attended', same''⟩ := attend?_congr same.symm attended
    refine ⟨(.message message, (state.emptied.receive service message).inbox) :: record,
      last', ?_, same'.trans same''.symm, ?_⟩
    · have onward : (state.emptied.accept message).settle service =
        state.emptied.receive service message := rfl
      simp only [List.map_cons, attend?, happen?, Option.bind_eq_bind, Option.bind_some, onward,
        attended', Option.pure_def]
    · rw [List.foldl_cons, inbox', inbox, List.flatMap_cons, List.append_assoc]

end State

/-- Frames put in between that are no requests have no effect. -/
structure Indifferent (service : Service World Task) (start : State World Task)
    (originals padded : List (Happening World)) : Prop where
  drops : ∀ record' last', start.Attends service (Settles service) record' last' →
    record'.map (·.1) = padded → ∃ record last,
      start.Attends service (Settles service) record last ∧ record.map (·.1) = originals ∧
      Padded record record' ∧ last.emptied = last'.emptied
  adds : ∀ record last, start.Attends service (Settles service) record last →
    record.map (·.1) = originals → ∃ record' last',
      start.Attends service (Settles service) record' last' ∧ record'.map (·.1) = padded ∧
      Padded record record' ∧ last'.emptied = last.emptied
  /-- In the fixed order there is one way to go on with them, and one without. -/
  inOrder : ∀ record last, start.attend? service originals = some (record, last) →
    ∃ record' last', start.attend? service padded = some (record', last') ∧
      Padded record record' ∧ last'.emptied = last.emptied
  received : ∀ messages messages' : List Message, messages.map .message = originals →
    messages'.map .message = padded → ∃ record record' : List (Turnaround World),
      Padded record record' ∧ record.map (·.1) = originals ∧ record'.map (·.1) = padded ∧
      (messages.foldl (State.receive service) start).inbox =
        start.inbox ++ record.flatMap (·.2) ∧
      (messages'.foldl (State.receive service) start).inbox =
        start.inbox ++ record'.flatMap (·.2) ∧
      (messages'.foldl (State.receive service) start).emptied =
        (messages.foldl (State.receive service) start).emptied

variable {config : Config} {origin : Timestamp} {world : World} {start : State World Task}
  {originals padded : List (Happening World)}

theorem indifferent_of_settled (tires : service.Tires) (paced : start.broker.Paced)
    (settled : start.broker.Settled service) (inserted : Inserted originals padded) :
    Indifferent service start originals padded := by
  have inOrder (record : List (Turnaround World)) (last : State World Task)
      (attended : start.attend? service originals = some (record, last)) :
      ∃ record' last', start.attend? service padded = some (record', last') ∧
        Padded record record' ∧ last'.emptied = last.emptied := by
    obtain ⟨attends, happened⟩ := State.attend?_eq_some_iff.mp attended
    obtain ⟨record', last', attends', happened', woven, same⟩ :=
      attends.padded (Broker.halts_settlesInOrder tires) inserted paced settled happened
    exact ⟨record', last', State.attend?_eq_some_iff.mpr ⟨attends', happened'⟩, woven, same⟩
  refine ⟨fun record' last' attends happened => ?_,
    fun record last attends happened => ?_, inOrder,
    fun messages messages' happened happened' => ?_⟩
  · exact attends.without Broker.halts_settles inserted paced settled happened
  · exact attends.padded Broker.halts_settles inserted paced settled happened
  · obtain ⟨record, last, attended, same, inbox⟩ :=
      State.attend?_receive service messages start
    obtain ⟨record', last', attended', same', inbox'⟩ :=
      State.attend?_receive service messages' start
    rw [happened] at attended
    rw [happened'] at attended'
    obtain ⟨record'', last'', attended'', woven, equal⟩ := inOrder record last attended
    cases attended'.symm.trans attended''
    exact ⟨record, record', woven, (State.attend?_eq_some_iff.mp attended).2,
      (State.attend?_eq_some_iff.mp attended').2, inbox, inbox',
      same'.trans (equal.trans same.symm)⟩

/-- Whatever happens to a server that was just started and wherever frames are put in between that
are no requests, everything else goes as it does without them. -/
theorem indifferent_of_start (tires : service.Tires)
    (started : Server.start service config origin world = .ok start)
    (inserted : Inserted originals padded) : Indifferent service start originals padded := by
  have valid : config.validate = .ok config := by
    unfold Server.start at started
    unfold Config.validate at started ⊢
    cases broken : config.violation? with
    | some => rw [broken] at started; cases started
    | none => rfl
  have paced : (Broker.create config origin world : Broker World Task).startDispatcher.Paced := by
    intro limited
    obtain ⟨ttl, limit⟩ := Option.isSome_iff_exists.mp limited
    exact Config.sweepInterval_pos valid limit
  have settles := Broker.settles_settle tires paced
  simp only [Server.start, valid, Except.ok.injEq] at started
  subst started
  exact indifferent_of_settled tires (settles.paced paced) settles.settled inserted

/-- A listing is asked for, and its result, which is there a millisecond later. -/
def conversation : List (Happening Catalogue) :=
  [.message (.text (inBraces [("id", "7"),
      ("request", inBraces [("type", inQuotes "GetInstances")])])),
    .message (.text (inBraces [("id", "8"),
      ("request", inBraces [("type", inQuotes "GetInstancesResult"), ("transaction", "1")])])),
    .tick]

/-- The same with a text that is cut off and a binary frame while the result is not there. -/
def interrupted : List (Happening Catalogue) :=
  conversation.take 2 ++ [.message (.text "[9"), .message (.binary "8")] ++
    conversation.drop 2

theorem indifferent_interrupted : ∃ start problem,
    slowly.service.Tires ∧ Server.start slowly.service {} ⟨0, 0⟩ {} = .ok start ∧
    Envelope.codec.read "[9" = .error problem ∧ Inserted conversation interrupted ∧
    ((start.attend? slowly.service interrupted).map fun attended =>
        attended.1.map (·.2.map (·.id))) = some [[some 7], [], [none], [], [some 8]] ∧
    Indifferent slowly.service start conversation interrupted := by
  have started : ∃ start, Server.start slowly.service {} ⟨0, 0⟩ {} = .ok start ∧
      ((start.attend? slowly.service interrupted).map fun attended =>
        attended.1.map (·.2.map (·.id))) = some [[some 7], [], [none], [], [some 8]] :=
    ⟨_, rfl, by decide +kernel⟩
  obtain ⟨start, started, replies⟩ := started
  have cut : (Envelope.codec.read "[9").isOk = false := by decide +kernel
  obtain ⟨problem, unreadable⟩ : ∃ problem, Envelope.codec.read "[9" = .error problem := by
    cases read : Envelope.codec.read "[9" with
    | error problem => exact ⟨problem, rfl⟩
    | ok => rw [read] at cut; cases cut
  have inserted : Inserted conversation interrupted :=
    .kept _ (.kept _ (.refused unreadable (.ignored rfl (.kept _ .nil))))
  exact ⟨start, problem, slowly.tires, started, unreadable, inserted, replies,
    indifferent_of_start slowly.tires started inserted⟩

end Server

end InstanceBroker
