import InstanceBroker.Proofs.Isolation.Schedule

namespace InstanceBroker

variable {World Task : Type} {service : Service World Task}

def Input.request? : Input → Option Request
  | .request asked => some asked
  | _ => none

namespace Broker

/-- A way to settle: which events a broker can make and which broker they leave. -/
abbrev Settling (World Task : Type) :=
  Broker World Task → List Event → Broker World Task → Prop

def SettlesInOrder (service : Service World Task) : Settling World Task :=
  fun broker events last => broker.settle service = (last, events)

inductive Reacts (settling : Settling World Task) :
    Broker World Task → List Input → List Event → Broker World Task → Prop
  | nil {broker : Broker World Task} : Reacts settling broker [] [] broker
  | cons {broker middle last : Broker World Task} {input : Input} {inputs : List Input}
      {events later : List Event} (settles : settling (broker.receive input) events middle)
      (reacts : Reacts settling middle inputs later last) :
      Reacts settling broker (input :: inputs) (events ++ later) last

/-- A way to settle in which a transaction makes no difference to anything besides it. -/
structure Oblivious (service : Service World Task) (id : TransactionId) (wipe : World → World)
    (settling : Settling World Task) : Prop where
  settles : ∀ {broker last : Broker World Task} {events : List Event}, broker.Steady →
    settling broker events last → Settles service broker events last
  still : ∀ {broker : Broker World Task}, broker.Settled service → settling broker [] broker
  besides : ∀ {broker other last : Broker World Task} {events : List Event},
    settling broker events last → broker.Steady → other.Steady → other.Unburdened id →
    other.besides id wipe = broker.besides id wipe →
    ∃ events' last', settling other events' last' ∧
      last'.besides id wipe = last.besides id wipe ∧
      other.answersBesides id events' = broker.answersBesides id events

variable {broker other last : Broker World Task} {id : TransactionId} {wipe : World → World}
  {events : List Event} {settling : Settling World Task}

theorem oblivious_settles (tires : service.Tires) (separates : service.Separates id wipe) :
    Oblivious service id wipe (Settles service) where
  settles _ settles := settles
  still := .still
  besides settles steady steady' unburdened same :=
    settles.besides tires separates steady steady' unburdened same

theorem oblivious_settlesInOrder (tires : service.Tires) (separates : service.Separates id wipe) :
    Oblivious service id wipe (SettlesInOrder service) where
  settles steady settles := by
    have settled := settles_settle tires steady.paced
    rw [settles] at settled
    exact settled
  still settled := settleWithin_of_settled settled _
  besides {broker other last events} settles steady steady' _ same := by
    have seen := settle_besides tires separates steady steady' same
    rw [settles] at seen
    exact ⟨_, _, rfl, seen⟩

section Receiving

theorem unburdened_of_idle (idle : broker.queue = []) : broker.Unburdened id := by
  intro action queued
  rw [idle] at queued
  cases queued

theorem receive_idle (idle : broker.queue = []) (input : Input) :
    (broker.receive input).queue = [] := by
  rw [receive_frame]
  exact idle

theorem besides_request (steady : broker.Steady) (idle : broker.queue = []) (request : Request) :
    (broker.receive (.request request)).besides id wipe =
      { broker.besides id wipe with
        calls := (broker.besides id wipe).calls ++
          if request.spares id then [{ request }] else [] } := by
  have added : [({ request } : Call)].filter (·.spares id) =
      if request.spares id then [{ request }] else [] := by
    cases spares : request.spares id <;> simp [Call.spares, spares]
  have received : broker.receive (.request request) =
      { broker with calls := broker.calls ++ [{ request }] } := if_pos steady.reachable
  rw [received, besides_frame, besides_frame]
  simp only [idle, List.filter_nil, List.map_nil, List.filter_append, added]
  cases id <;> rfl

theorem besides_tick : (broker.receive .tick).besides id wipe =
    { broker.besides id wipe with
      clock := (broker.besides id wipe).clock + Duration.nanosPerMilli } := by
  cases id <;> rfl

theorem besides_shutdown : (broker.receive .shutdown).besides id wipe =
    { broker.besides id wipe with shutdown := true } := by
  cases id <;> rfl

theorem requests_abandon (caller : CallId) :
    (broker.abandon caller).requests = broker.requests := by
  refine List.ext_getElem? fun n => ?_
  simp only [requests, abandon, List.getElem?_map, List.getElem?_modify]
  cases broker.calls[n]? with
  | none => rfl
  | some call =>
    by_cases here : caller = n <;> by_cases pending : call.isPending <;> simp [here, pending]

theorem spares_abandon (call : Call) :
    (if call.isPending then { call with phase := .abandoned } else call).spares id =
      call.spares id := by
  split <;> rfl

theorem besides_abandon {caller : CallId} {call : Call} (found : broker.calls[caller]? = some call)
    (spares : call.spares id = true) :
    (broker.receive (.abandon caller)).besides id wipe =
      (broker.besides id wipe).abandon (broker.place id caller) := by
  have calls : (broker.abandon caller).calls.filter (·.spares id) =
      ((broker.besides id wipe).abandon (broker.place id caller)).calls := by
    rw [besides_frame]
    exact Kept.filter_modify found spares spares_abandon
  rw [receive, besides_frame, calls, place_congr (requests_abandon caller)]
  rw [abandon, besides_frame]
  cases id <;> rfl

theorem besides_abandon_lost {caller : CallId}
    (lost : ∀ call, broker.calls[caller]? = some call → call.spares id = false) :
    (broker.receive (.abandon caller)).besides id wipe = broker.besides id wipe := by
  have calls : (broker.abandon caller).calls.filter (·.spares id) =
      broker.calls.filter (·.spares id) := Kept.filter_modify_lost lost spares_abandon
  rw [receive, besides_frame, calls, place_congr (requests_abandon caller), besides_frame]
  cases id <;> rfl

end Receiving

def Unseen (broker : Broker World Task) (id : TransactionId) (wipe : World → World)
    (inputs : List Input) : Prop :=
  inputs = [] ∨ ∃ input, inputs = [input] ∧ input ≠ .close ∧
    (broker.receive input).besides id wipe = broker.besides id wipe

inductive Corresponds (broker other : Broker World Task) (id : TransactionId)
    (wipe : World → World) : List Input → List Input → Prop
  | unseen {inputs inputs' : List Input} (unseen : broker.Unseen id wipe inputs)
      (unseen' : other.Unseen id wipe inputs') : Corresponds broker other id wipe inputs inputs'
  | single {input input' : Input} (open_ : input ≠ .close) (open' : input' ≠ .close)
      (same : (other.receive input').besides id wipe = (broker.receive input).besides id wipe) :
      Corresponds broker other id wipe [input] [input']
  | ticks (count : Nat) :
      Corresponds broker other id wipe (.replicate count .tick) (.replicate count .tick)

section Reacting

theorem Reacts.unseen (oblivious : Oblivious service id wipe settling) (steady : broker.Steady)
    (settled : broker.Settled service) (idle : broker.queue = []) {inputs : List Input}
    (unseen : broker.Unseen id wipe inputs) (reacts : Reacts settling broker inputs events last) :
    last.besides id wipe = broker.besides id wipe ∧ last.answersBesides id events = [] := by
  rcases unseen with rfl | ⟨input, rfl, open_, same⟩
  · cases reacts
    exact ⟨rfl, rfl⟩
  · cases reacts with
    | @cons _ _ _ _ _ events _ settles rest =>
      cases rest
      have started := steady.input service open_
      obtain ⟨none, still, settles', same', answered⟩ :=
        oblivious.besides settles started steady (unburdened_of_idle idle) same.symm
      obtain ⟨rfl, rfl⟩ := (oblivious.settles steady settles').of_settled settled
      have requests := (oblivious.settles started settles).requests_eq
      refine ⟨same'.symm, ?_⟩
      rw [List.append_nil, answersBesides_congr requests, ← answered]
      rfl

theorem exists_unseen (oblivious : Oblivious service id wipe settling) (steady : broker.Steady)
    (settled : broker.Settled service) (idle : broker.queue = []) {inputs : List Input}
    (unseen : broker.Unseen id wipe inputs) :
    ∃ events last, Reacts settling broker inputs events last ∧
      last.besides id wipe = broker.besides id wipe ∧ last.answersBesides id events = [] := by
  rcases unseen with rfl | ⟨input, rfl, open_, same⟩
  · exact ⟨_, _, .nil, rfl, rfl⟩
  · have started := steady.input service open_
    obtain ⟨events, last, settles, same', answered⟩ :=
      oblivious.besides (oblivious.still settled) steady started
        (unburdened_of_idle (receive_idle idle input)) same
    have requests := (oblivious.settles started settles).requests_eq
    refine ⟨_, last, .cons settles .nil, same', ?_⟩
    rw [List.append_nil, answersBesides_congr requests, answered]
    rfl

theorem Reacts.single (oblivious : Oblivious service id wipe settling) (steady : broker.Steady)
    (steady' : other.Steady) (idle' : other.queue = []) {input input' : Input}
    (open_ : input ≠ .close) (open' : input' ≠ .close)
    (same : (other.receive input').besides id wipe = (broker.receive input).besides id wipe)
    (settles : settling (broker.receive input) events last) :
    ∃ events' last', settling (other.receive input') events' last' ∧
      last'.besides id wipe = last.besides id wipe ∧
      last'.answersBesides id events' = last.answersBesides id events := by
  have started := steady.input service open_
  have started' := steady'.input service open'
  obtain ⟨events', last', settles', same', answered⟩ :=
    oblivious.besides settles started started' (unburdened_of_idle (receive_idle idle' input')) same
  have requests := (oblivious.settles started settles).requests_eq
  have requests' := (oblivious.settles started' settles').requests_eq
  refine ⟨events', last', settles', same', ?_⟩
  rw [answersBesides_congr requests, answersBesides_congr requests', answered]

theorem Reacts.kept (oblivious : Oblivious service id wipe settling) (steady : broker.Steady)
    (settled : broker.Settled service) (idle : broker.queue = []) {inputs : List Input}
    (open_ : .close ∉ inputs) (reacts : Reacts settling broker inputs events last) :
    last.Steady ∧ last.Settled service ∧ last.queue = [] := by
  induction reacts with
  | nil => exact ⟨steady, settled, idle⟩
  | @cons _ _ _ input inputs _ _ settles _ ih =>
    simp only [List.mem_cons, not_or] at open_
    have started := steady.input service (Ne.symm open_.1)
    have settles := oblivious.settles started settles
    exact ih (settles.steady started) settles.settled
      (settles.idle started (receive_idle idle input)) open_.2

theorem requests_receive (reachable : broker.reachable = true) (input : Input) :
    (broker.receive input).requests = broker.requests ++ input.request?.toList := by
  cases input with
  | request request =>
    simp only [receive, reachable, if_true, requests, List.map_append, Input.request?]
    rfl
  | startDispatcher =>
    simp only [receive, startDispatcher, Input.request?]
    split <;> exact (List.append_nil _).symm
  | dropDispatcher =>
    simp only [receive, dropDispatcher, Input.request?]
    split <;> exact (List.append_nil _).symm
  | abandon caller => exact (requests_abandon caller).trans (List.append_nil _).symm
  | tick | shutdown | close => exact (List.append_nil _).symm

theorem Reacts.requests_eq (oblivious : Oblivious service id wipe settling) (steady : broker.Steady)
    {inputs : List Input} (open_ : .close ∉ inputs)
    (reacts : Reacts settling broker inputs events last) :
    last.requests = broker.requests ++ inputs.filterMap Input.request? := by
  induction reacts with
  | nil => exact (List.append_nil _).symm
  | @cons _ _ _ input inputs _ _ settles _ ih =>
    simp only [List.mem_cons, not_or] at open_
    have started := steady.input service (Ne.symm open_.1)
    have settles := oblivious.settles started settles
    rw [ih (settles.steady started) open_.2, settles.requests_eq,
      requests_receive steady.reachable, List.append_assoc]
    cases asked : input.request? <;> simp [asked]

theorem Reacts.requests_of_ticks (oblivious : Oblivious service id wipe settling)
    (steady : broker.Steady) {count : Nat}
    (reacts : Reacts settling broker (.replicate count .tick) events last) :
    last.requests = broker.requests := by
  have unasked : (List.replicate count Input.tick).filterMap Input.request? = [] := by
    simp [List.filterMap_replicate, Input.request?]
  rw [reacts.requests_eq oblivious steady (by simp), unasked, List.append_nil]

theorem Reacts.ticks (oblivious : Oblivious service id wipe settling) (steady : broker.Steady)
    (steady' : other.Steady) (idle : broker.queue = []) (idle' : other.queue = [])
    (same : other.besides id wipe = broker.besides id wipe) {count : Nat}
    (reacts : Reacts settling broker (.replicate count .tick) events last) :
    ∃ events' last', Reacts settling other (.replicate count .tick) events' last' ∧
      last'.besides id wipe = last.besides id wipe ∧
      last'.answersBesides id events' = last.answersBesides id events := by
  induction count generalizing broker other events with
  | zero =>
    cases reacts
    exact ⟨_, _, .nil, same, rfl⟩
  | succ count ih =>
    cases reacts with
    | @cons _ _ _ _ _ begun _ settles rest =>
      have open_ : Input.tick ≠ .close := nofun
      obtain ⟨first, middle, settles', same', answered⟩ :=
        Reacts.single oblivious steady steady' idle' open_ open_
          (by rw [besides_tick, besides_tick, same]) settles
      have started := steady.input service open_
      have started' := steady'.input service open_
      have settled := oblivious.settles started settles
      have settled' := oblivious.settles started' settles'
      have onward := settled.steady started
      have onward' := settled'.steady started'
      obtain ⟨later, last', rest', same'', answered'⟩ :=
        ih onward onward' (settled.idle started (receive_idle idle .tick))
          (settled'.idle started' (receive_idle idle' .tick)) same' rest
      have before : last'.answersBesides id first = last.answersBesides id begun := by
        rw [answersBesides_congr (rest.requests_of_ticks oblivious onward),
          answersBesides_congr (rest'.requests_of_ticks oblivious onward'), answered]
      refine ⟨_, last', .cons settles' rest', same'', ?_⟩
      rw [answersBesides_append, answersBesides_append, before, answered']

/-- However the one broker reacts to its inputs, the other one can react to those that correspond
with the same outcome besides the transaction and with the same answers. -/
theorem Reacts.besides (oblivious : Oblivious service id wipe settling) (steady : broker.Steady)
    (steady' : other.Steady) (settled : broker.Settled service) (settled' : other.Settled service)
    (idle : broker.queue = []) (idle' : other.queue = [])
    (same : other.besides id wipe = broker.besides id wipe) {inputs inputs' : List Input}
    (corresponds : Corresponds broker other id wipe inputs inputs')
    (reacts : Reacts settling broker inputs events last) :
    ∃ events' last', Reacts settling other inputs' events' last' ∧
      last'.besides id wipe = last.besides id wipe ∧
      last'.answersBesides id events' = last.answersBesides id events := by
  cases corresponds with
  | unseen unseen unseen' =>
    obtain ⟨quiet, silent⟩ := reacts.unseen oblivious steady settled idle unseen
    obtain ⟨events', last', reacts', quiet', silent'⟩ :=
      exists_unseen oblivious steady' settled' idle' unseen'
    exact ⟨events', last', reacts', quiet'.trans (same.trans quiet.symm),
      silent'.trans silent.symm⟩
  | single open_ open' same' =>
    cases reacts with
    | cons settles rest =>
      cases rest
      obtain ⟨events', last', settles', seen, answered⟩ :=
        Reacts.single oblivious steady steady' idle' open_ open' same' settles
      exact ⟨_, last', .cons settles' .nil, seen,
        by rw [List.append_nil, List.append_nil, answered]⟩
  | ticks count => exact reacts.ticks oblivious steady steady' idle idle' same

end Reacting

end Broker

end InstanceBroker
