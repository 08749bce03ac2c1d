import InstanceBroker.Proofs.Delivery

namespace InstanceBroker

variable {World Task : Type} {service : Service World Task}

def Event.Removes (id : TransactionId) : Event → Prop
  | .swept transaction => transaction = id
  | .stopped transactions => id ∈ transactions
  | _ => False

/-- The call was told that its transaction is cancelled, or has failed or been given up since. -/
def Call.Rebuffed (call : Call) : Prop :=
  call.phase = .told (.refused .cancelled) ∨ call.phase = .answered (.error .cancelled) ∨
    call.phase = .abandoned

namespace Broker

/-- A call that took a last value is about to release the transaction. -/
def Releasing (broker : Broker World Task) (id : TransactionId) : Prop :=
  .complete id ∈ broker.queue ∨
    ∃ (caller : CallId) (kind : Operation.Kind) (outcome : Outcome),
    broker.calls[caller]? = some { request := .collect kind id, phase := .completing outcome }

/-- Whatever happens, the slot stays there and cancelled until the sweep or the end of the
dispatcher removes it. -/
def StaysCancelled (service : Service World Task) (broker : Broker World Task)
    (id : TransactionId) : Prop :=
  ∀ later last, Trace service broker later last →
    (∃ slot, last.table.find? id = some slot ∧ slot.state = .cancelled) ∨
      ∃ event ∈ history later, event.Removes id

variable {broker after : Broker World Task} {turn : Turn World} {events : List Event}
  {id : TransactionId}

theorem Releasing.back
    (taken : broker.turn? service turn = some (after, events))
    (cancelled : ∃ run, broker.run? id = some run ∧ run.cancelled = true)
    (releasing : after.Releasing id) : broker.Releasing id := by
  rcases releasing with queued | ⟨caller, kind, outcome, found⟩
  · rcases release_step taken queued with old | ⟨caller, kind, outcome, _, _, asks, _⟩
    · exact .inl old
    · exact .inr ⟨caller, kind, outcome, asks⟩
  · rcases call_origin taken found with
      ⟨⟨request, phase⟩, before, same, step⟩ | ⟨_, _, fresh, _⟩
    · cases same
      generalize reached : Call.Phase.completing outcome = next at step
      cases step with
      | kept =>
        cases reached
        exact .inr ⟨caller, kind, outcome, before⟩
      | progressed progresses =>
        cases progresses with
        | tookLast there up uncancelled =>
          obtain ⟨run, known, cancelled⟩ := cancelled
          cases known.symm.trans there
          rw [cancelled] at uncancelled
          cases uncancelled
        | _ => cases reached
      | told | abandoned => cases reached
    · cases fresh

theorem cancelled_lasts
    (taken : broker.turn? service turn = some (after, events))
    (old : id < broker.table.nextId)
    (cancelled : ∀ slot, broker.table.find? id = some slot → slot.state = .cancelled) :
    ∀ slot, after.table.find? id = some slot → slot.state = .cancelled := by
  intro slot found
  cases before : broker.table.find? id with
  | none =>
    rcases slot_begun taken before with missing | ⟨next, _⟩
    · rw [missing] at found
      cases found
    · exact absurd next (Nat.ne_of_lt old)
  | some earlier =>
    have step := slot_step taken before (Nat.ne_of_lt old)
    rw [found] at step
    cases step with
    | kept => exact cancelled _ before
    | accessed usable => exact absurd (cancelled _ before) usable
    | cancelled => rfl

theorem unreleased_step (formed : broker.WellFormed)
    (taken : broker.turn? service turn = some (after, events)) {slot : Slot}
    (found : broker.table.find? id = some slot) (cancelled : slot.state = .cancelled)
    (unreleased : ¬ broker.Releasing id) :
    ((∃ slot, after.table.find? id = some slot ∧ slot.state = .cancelled) ∧
      ¬ after.Releasing id) ∨
      ∃ event ∈ events, event.Removes id := by
  have back (releasing : after.Releasing id) : False :=
    unreleased (releasing.back taken (formed.cancelled id slot found cancelled))
  have step := slot_step taken found (formed.old_of_find? found)
  generalize after.table.find? id = later at step
  cases step with
  | kept => exact .inl ⟨⟨slot, rfl, cancelled⟩, back⟩
  | accessed usable => exact absurd cancelled usable
  | cancelled => exact .inl ⟨⟨_, rfl, rfl⟩, back⟩
  | completed =>
    obtain ⟨_, _, _, _, head, _⟩ := handles_of_handled taken List.mem_cons_self
    exact absurd (.inl (head ▸ List.mem_cons_self)) unreleased
  | swept among => exact .inr ⟨_, among, rfl⟩
  | stopped among => exact .inr ⟨_, List.mem_singleton.mpr rfl, among⟩

theorem staysCancelled_of_unreleased (formed : broker.WellFormed) {slot : Slot}
    (found : broker.table.find? id = some slot) (cancelled : slot.state = .cancelled)
    (unreleased : ¬ broker.Releasing id) : StaysCancelled service broker id := by
  intro later last trace
  -- That nobody is about to release the transaction has to be carried along.
  have fenced : last.WellFormed ∧
      (((∃ slot, last.table.find? id = some slot ∧ slot.state = .cancelled) ∧
        ¬ last.Releasing id) ∨ ∃ event ∈ history later, event.Removes id) := by
    induction trace with
    | nil => exact ⟨formed, .inl ⟨⟨slot, found, cancelled⟩, unreleased⟩⟩
    | snoc _ taken ih =>
      refine ⟨ih.1.step taken, ?_⟩
      rw [history_append, history_singleton]
      rcases ih.2 with ⟨⟨slot, found, cancelled⟩, unreleased⟩ | ⟨event, among, removes⟩
      · refine (unreleased_step ih.1 taken found cancelled unreleased).imp_right ?_
        rintro ⟨event, among, removes⟩
        exact ⟨event, List.mem_append_right _ among, removes⟩
      · exact .inr ⟨event, List.mem_append_left _ among, removes⟩
  exact fenced.2.imp_left And.left

theorem handles_head (service : Service World Task) {action : Action} {queue : List Action}
    {due : Nat} (running : broker.dispatcher = .running due) (up : broker.shutdown = false)
    (head : broker.queue = action :: queue) :
    ∃ after events,
      broker.turn? service (.move .dispatcher) = some (after, .handled action :: events) ∧
      Handles service { broker with queue } action after events := by
  refine ⟨_, _, ?_, handles_of_handle service { broker with queue } action⟩
  simp [turn?, fire?, dispatch?, running, up, head]

theorem turn?_release (service : Service World Task) {caller : CallId} {kind : Operation.Kind}
    {outcome : Outcome} (up : broker.shutdown = false) (accepts : broker.dispatcher.accepts = true)
    (room : broker.hasRoom = true)
    (found : broker.calls[caller]? =
      some { request := .collect kind id, phase := .completing outcome }) :
    broker.turn? service (.move (.call caller)) =
      some (broker.moved caller (.answered outcome) [.complete id] none,
        [.accepted caller (.complete id), .answered caller outcome]) := by
  simp [turn?, fire?, advanceCall?, found, complete?, up, accepts, room, answer, moved, taking]

theorem Handles.unremoved {action : Action} (handles : Handles service broker action after events)
    (id : TransactionId) : ∀ event ∈ events, ¬ event.Removes id := by
  cases handles <;> simp [Event.Removes]

theorem Handles.cancelled_slot
    (handles : Handles service broker (.cancel id) after [.cancelled id]) :
    ∃ slot, after.table.find? id = some slot ∧ slot.state = .cancelled := by
  cases handles with
  | cancelled live =>
    obtain ⟨slot, found⟩ := Option.isSome_iff_exists.mp live
    refine ⟨{ slot with state := .cancelled }, ?_, rfl⟩
    rw [Table.cancel, Table.find?_setState, if_pos rfl, found]
    rfl

theorem released_of_head {queue : List Action} {due : Nat} {slot : Slot}
    (running : broker.dispatcher = .running due) (up : broker.shutdown = false)
    (head : broker.queue = .complete id :: queue) (found : broker.table.find? id = some slot) :
    ∃ last, Trace service broker
        [{ broker, turn := .move .dispatcher, events := [.handled (.complete id), .completed id] }]
        last ∧ last.table.find? id = none := by
  have live := Table.isLive_of_find? found
  have fired : broker.turn? service (.move .dispatcher) =
      some ({ broker with queue, table := broker.table.erase id },
        [.handled (.complete id), .completed id]) := by
    simp [turn?, fire?, dispatch?, running, up, head, handle, live]
  exact ⟨_, .single fired, by simp⟩

theorem stays_of_handled (formed : broker.WellFormed) {slot : Slot}
    (found : broker.table.find? id = some slot) {action : Action}
    (fired : broker.turn? service (.move .dispatcher) = some (after, .handled action :: events))
    (other : action ≠ .complete id) : ∃ slot, after.table.find? id = some slot := by
  obtain ⟨_, _, made, _, _, handles⟩ := handles_of_handled fired List.mem_cons_self
  cases made
  have step := slot_step fired found (formed.old_of_find? found)
  generalize after.table.find? id = next at step
  generalize made : Event.handled action :: events = all at step
  cases step with
  | kept | accessed | cancelled => exact ⟨_, rfl⟩
  | completed =>
    cases made
    exact absurd rfl other
  | swept among =>
    rw [← made] at among
    rcases List.mem_cons.mp among with equal | later
    · cases equal
    · exact absurd rfl (handles.unremoved id _ later)
  | stopped => cases made

theorem Releasing.of_handled (releasing : broker.Releasing id) {action : Action}
    (fired : broker.turn? service (.move .dispatcher) = some (after, .handled action :: events))
    (other : action ≠ .complete id) : after.Releasing id := by
  rcases releasing with queued | ⟨caller, kind, outcome, completing⟩
  · obtain ⟨_, _, _, _, head, _⟩ := handles_of_handled fired List.mem_cons_self
    rw [head] at queued
    rcases List.mem_cons.mp queued with equal | later
    · exact absurd equal.symm other
    · exact .inl later
  · obtain ⟨phase, there, step⟩ := call_step fired completing
    cases step with
    | kept => exact .inr ⟨caller, kind, outcome, there⟩
    | told waits => cases waits

/-- Once a call is about to release a transaction, nothing but time keeps it from doing so. -/
theorem released_of_releasing (formed : broker.WellFormed) {due : Nat}
    (running : broker.dispatcher = .running due) (up : broker.shutdown = false)
    (capacity : 0 < broker.config.actionQueueCapacity) {slot : Slot}
    (found : broker.table.find? id = some slot) (releasing : broker.Releasing id) :
    ∃ later last, Trace service broker later last ∧ last.table.find? id = none ∧
      ∀ event ∈ history later, ¬ event.Removes id := by
  -- What stands before the release is handled first; the release itself is queued last.
  induction length : broker.queue.length generalizing broker slot with
  | zero =>
    have idle := List.eq_nil_of_length_eq_zero length
    rcases releasing with queued | ⟨caller, kind, outcome, completing⟩
    · rw [idle] at queued
      cases queued
    · have accepts := accepts_of_running running
      have room : broker.hasRoom = true := by simp [hasRoom, idle, capacity]
      have first := turn?_release service up accepts room completing
      have frame := (broker.moved_frame caller (.answered outcome) [.complete id] none).1
      have head : (broker.moved caller (.answered outcome) [.complete id] none).queue =
          [.complete id] := by rw [queue_moved, idle, List.nil_append]
      obtain ⟨last, second, gone⟩ := released_of_head (by rw [frame]; exact running)
        (by rw [frame]; exact up) head (by rw [frame]; exact found)
      refine ⟨_, last, (Trace.single first).append second, gone, ?_⟩
      simp [history, Event.Removes]
  | succ length' ih =>
    obtain ⟨action, queue, head⟩ := List.exists_cons_of_length_eq_add_one length
    by_cases release : action = .complete id
    · subst release
      obtain ⟨last, only, gone⟩ := released_of_head running up head found
      exact ⟨_, last, only, gone, by simp [Event.Removes]⟩
    · obtain ⟨after, events, fired, handles⟩ := handles_head service running up head
      have frame := handles.frame
      have shorter : after.queue = queue := by rw [frame]
      obtain ⟨slot', found'⟩ := stays_of_handled formed found fired release
      have releasing' := releasing.of_handled fired release
      obtain ⟨later, last, rest, gone, unremoved⟩ := ih (formed.step fired)
        (by rw [frame]; exact running) (by rw [frame]; exact up) (by rw [frame]; exact capacity)
        found' releasing' (by rw [shorter]; simpa [head] using length)
      refine ⟨_, last, (Trace.single fired).append rest, gone, ?_⟩
      rw [history_append, history_singleton]
      exact List.forall_mem_append.mpr
        ⟨List.forall_mem_cons.mpr ⟨not_false, handles.unremoved id⟩, unremoved⟩

theorem rebuffed_step {caller : CallId} {call : Call} {phase : Call.Phase}
    (rebuffed : call.Rebuffed) (step : CallStep broker after caller call turn events phase) :
    ({ call with phase } : Call).Rebuffed := by
  obtain ⟨request, old⟩ := call
  cases step with
  | kept => exact rebuffed
  | told waits => cases waits; rcases rebuffed with equal | equal | equal <;> cases equal
  | progressed progresses =>
    rcases rebuffed with rfl | rfl | rfl
    · cases progresses with
      | preempted => exact .inr (.inl rfl)
      | learned _ known => cases known; exact .inr (.inl rfl)
    · cases progresses.pending
    · cases progresses.pending
  | abandoned => exact .inr (.inr rfl)

theorem rebuffed_of_handled (formed : broker.WellFormed)
    (taken : broker.turn? service turn = some (after, events)) {caller : CallId}
    (handled : .handled (.getResult id caller) ∈ events) {slot : Slot}
    (found : broker.table.find? id = some slot) (cancelled : slot.state = .cancelled) :
    ∃ kind phase, after.calls[caller]? = some { request := .collect kind id, phase } ∧
      ({ request := .collect kind id, phase } : Call).Rebuffed := by
  obtain ⟨later, _, _, _, head, handles⟩ := handles_of_handled taken handled
  obtain ⟨⟨request, phase⟩, there, asked, unheard⟩ :=
    formed.asked _ (head ▸ List.mem_cons_self) caller rfl
  cases request with
  | collect kind transaction =>
    cases asked
    rcases handles.call there with ⟨same, apart⟩ | ⟨waits, _, reply, replies, told⟩
    · refine ⟨kind, phase, same, ?_⟩
      rcases unheard with waits | failed | abandoned
      · exact absurd rfl (apart waits)
      · exact .inr (.inl failed)
      · exact .inr (.inr abandoned)
    · rcases ({ broker with queue := after.queue }).reply?_getResult id caller with
        ⟨missing, _⟩ | ⟨other, known, ⟨_, refused⟩ | ⟨usable, _⟩⟩
      · cases missing.symm.trans found
      · cases refused.symm.trans replies
        exact ⟨kind, _, told, .inl rfl⟩
      · cases known.symm.trans found
        exact absurd cancelled usable
  | initiate | cancel | listTransactions => cases asked

theorem turn?_rebuffed (service : Service World Task) {caller : CallId} {request : Request}
    (found : broker.calls[caller]? = some { request, phase := .told (.refused .cancelled) }) :
    ∃ answered, broker.turn? service (.move (.call caller)) =
      some (answered, [.answered caller (.error .cancelled)]) := by
  simp only [turn?, fire?, advanceCall?, found, Option.bind_eq_bind, Option.bind_some]
  split <;> exact ⟨_, rfl⟩

end Broker

theorem Trace.rebuffed {start last : Broker World Task} {moments : List (Moment World Task)}
    (trace : Trace service start moments last) {caller : CallId} {request : Request}
    {phase : Call.Phase} (found : start.calls[caller]? = some { request, phase })
    (rebuffed : ({ request, phase } : Call).Rebuffed) :
    ∃ phase, last.calls[caller]? = some { request, phase } ∧
      ({ request, phase } : Call).Rebuffed := by
  induction trace with
  | nil => exact ⟨phase, found, rebuffed⟩
  | snoc _ taken ih =>
    obtain ⟨phase, there, rebuffed⟩ := ih
    obtain ⟨next, later, step⟩ := Broker.call_step taken there
    exact ⟨next, later, Broker.rebuffed_step rebuffed step⟩

variable {config : Config} {origin : Timestamp} {world : World} {thrownAway : List TransactionId}
  {earlier : List (Moment World Task)} {before broker : Broker World Task} {id : TransactionId}

theorem Trace.took_of_releasing
    (trace : Trace service (.fresh config origin world thrownAway) earlier broker)
    (releasing : broker.Releasing id) :
    ∃ caller value, .took caller id value ∈ history earlier := by
  have completing {moments : List (Moment World Task)} {last : Broker World Task}
      (trace : Trace service (.fresh config origin world thrownAway) moments last)
      {caller : CallId} {kind : Operation.Kind} {outcome : Outcome}
      (found : last.calls[caller]? =
        some { request := .collect kind id, phase := .completing outcome }) :
      ∃ caller value, .took caller id value ∈ history moments := by
    obtain ⟨value, taken, _⟩ := (trace.account caller).2 _ found
    exact ⟨caller, value, mem_takenBy.mp (taken ▸ List.mem_singleton.mpr rfl)⟩
  rcases releasing with queued | ⟨caller, kind, outcome, found⟩
  · induction trace with
    | nil => cases queued
    | @snoc moments middle after turn events trace taken ih =>
      have grown (took : ∃ caller value, .took caller id value ∈ history moments) :
          ∃ caller value, .took caller id value ∈
            history (moments ++ [{ broker := middle, turn, events }]) := by
        obtain ⟨caller, value, took⟩ := took
        exact ⟨caller, value, history_append moments _ ▸ List.mem_append_left _ took⟩
      rcases Broker.release_step taken queued with old | ⟨_, _, _, _, _, asks, _⟩
      · exact grown (ih old)
      · exact grown (completing trace asks)
  · exact completing trace found

/-- What a cancellation is worth from the moment at which the dispatcher has handled it. -/
structure Cancellation (service : Service World Task) (earlier : List (Moment World Task))
    (broker : Broker World Task) (id : TransactionId) : Prop where
  cancelled : ∀ later last, Trace service broker later last →
    ∀ slot, last.table.find? id = some slot → slot.state = .cancelled
  permanent : broker.StaysCancelled service id ↔ ¬ broker.Releasing id
  overtaken : broker.Releasing id → ∃ caller value, .took caller id value ∈ history earlier
  refused : ∀ later last, Trace service broker later last → ∀ moment ∈ later, ∀ caller,
    .handled (.getResult id caller) ∈ moment.events → moment.broker.table.isLive id = true →
    ∃ kind phase, last.calls[caller]? = some { request := .collect kind id, phase } ∧
      (phase = .answered (.error .cancelled) ∨ phase = .abandoned ∨
        ∃ answered, last.turn? service (.move (.call caller)) =
          some (answered, [.answered caller (.error .cancelled)]))

theorem Trace.cancelled_lasts {start last : Broker World Task} {later : List (Moment World Task)}
    (trace : Trace service start later last) (formed : start.WellFormed)
    (old : id < start.table.nextId)
    (cancelled : ∀ slot, start.table.find? id = some slot → slot.state = .cancelled) :
    last.WellFormed ∧ id < last.table.nextId ∧
      ∀ slot, last.table.find? id = some slot → slot.state = .cancelled := by
  induction trace with
  | nil => exact ⟨formed, old, cancelled⟩
  | snoc _ taken ih =>
    obtain ⟨formed, old, cancelled⟩ := ih
    have after := formed.step taken
    have grown := Broker.runs_grow taken
    refine ⟨after, ?_, Broker.cancelled_lasts taken old cancelled⟩
    rw [after.numbered]
    rw [formed.numbered] at old
    exact Nat.lt_of_lt_of_le old (Nat.succ_le_succ grown)

/-- A cancellation that the dispatcher has handled is for good, unless a call that took a last value
before is still to release the transaction; all that ask for results later are turned away. -/
theorem cancellation_of_handled (valid : config.validate = .ok config)
    (trace : Trace service (.fresh config origin world thrownAway) earlier before)
    (handled : before.turn? service (.move .dispatcher) =
      some (broker, [.handled (.cancel id), .cancelled id])) :
    Cancellation service earlier broker id := by
  have whole := trace.snoc handled
  have formed := whole.wellFormed
  obtain ⟨⟨due, running⟩, _⟩ := Broker.dispatches_of_dispatch? handled
  obtain ⟨_, _, made, up, _, handles⟩ := Broker.handles_of_handled handled List.mem_cons_self
  cases made
  have frame := handles.frame
  have capacity : 0 < broker.config.actionQueueCapacity := by
    rw [whole.config_eq]
    exact (Config.usable_of_validate valid).1
  obtain ⟨slot, found, cancelled⟩ := handles.cancelled_slot
  have old : id < broker.table.nextId := by
    rw [formed.numbered]
    have live := (Table.isLive_iff ..).mp (Table.isLive_of_find? found)
    exact Nat.lt_succ_of_le (formed.known id live).2
  have all : ∀ other, broker.table.find? id = some other → other.state = .cancelled := by
    intro other there
    cases there.symm.trans found
    exact cancelled
  constructor
  case cancelled =>
    intro later last trace
    exact (trace.cancelled_lasts formed old all).2.2
  case permanent =>
    constructor
    · intro stays releasing
      obtain ⟨later, last, rest, gone, unremoved⟩ := Broker.released_of_releasing formed
        (by rw [frame]; exact running) (by rw [frame]; exact up) capacity found releasing
      rcases stays later last rest with ⟨other, there, _⟩ | ⟨event, among, removes⟩
      · cases gone.symm.trans there
      · exact unremoved event among removes
    · intro unreleased
      exact Broker.staysCancelled_of_unreleased formed found cancelled unreleased
  case overtaken =>
    intro releasing
    obtain ⟨caller, value, took⟩ := whole.took_of_releasing releasing
    rw [history_append, history_singleton] at took
    rcases List.mem_append.mp took with took | new
    · exact ⟨caller, value, took⟩
    · simp at new
  case refused =>
    intro later last trace moment among caller asked live
    obtain ⟨first, rest, after, _, start, taken, trace⟩ := trace.split among
    obtain ⟨formed, _, all⟩ := start.cancelled_lasts formed old all
    obtain ⟨slot, found⟩ := Option.isSome_iff_exists.mp live
    obtain ⟨kind, phase, there, rebuffed⟩ :=
      Broker.rebuffed_of_handled formed taken asked found (all slot found)
    obtain ⟨phase, there, rebuffed⟩ := trace.rebuffed there rebuffed
    refine ⟨kind, phase, there, ?_⟩
    rcases rebuffed with told | failed | abandoned
    · cases told
      exact .inr (.inr (Broker.turn?_rebuffed service there))
    · exact .inl failed
    · exact .inr (.inl abandoned)

/-- With room for one action at a time, a call asks for a listing ahead of four cancellations. By
the time it has the listing they are all in front of its release. -/
def overtaking : List (Turn Catalogue) :=
  [.input (.request (.initiate .listInstances)), .move (.call 0),
    .input (.request (.collect .listInstances 1)), .input (.request (.cancel 7)),
    .input (.request (.cancel 8)), .input (.request (.cancel 9)), .input (.request (.cancel 1)),
    .input .startDispatcher, .move .dispatcher, .move (.run 1), .move (.run 1), .move (.call 0),
    .move (.call 1), .move .dispatcher, .move (.call 2), .move (.call 1), .move (.call 1),
    .move .dispatcher, .move (.call 3), .move .dispatcher, .move (.call 4), .move .dispatcher,
    .move (.call 5)]

def narrow : Config := { actionQueueCapacity := 1 }

theorem cancellation_overtaking : ∃ earlier before broker,
    (Broker.fresh narrow ⟨0, 0⟩ {} []).follow? (Simulated.Plan.service {}) overtaking =
      some (earlier, before) ∧
    narrow.validate = .ok narrow ∧
    before.turn? (Simulated.Plan.service {}) (.move .dispatcher) =
      some (broker, [.handled (.cancel 1), .cancelled 1]) ∧
    Cancellation (Simulated.Plan.service {}) earlier broker 1 := by
  have runs : ∃ earlier before broker,
      (Broker.fresh narrow ⟨0, 0⟩ {} []).follow? (Simulated.Plan.service {}) overtaking =
        some (earlier, before) ∧
      before.turn? (Simulated.Plan.service {}) (.move .dispatcher) =
        some (broker, [.handled (.cancel 1), .cancelled 1]) := ⟨_, _, _, rfl, rfl⟩
  obtain ⟨earlier, before, broker, followed, handled⟩ := runs
  have valid : narrow.validate = .ok narrow := rfl
  exact ⟨earlier, before, broker, followed, valid, handled,
    cancellation_of_handled valid (.of_follow? followed) handled⟩

/-- The call that was overtaken releases the cancelled transaction all the same. -/
theorem not_staysCancelled_overtaking : ∃ earlier before broker,
    Trace (Simulated.Plan.service {}) (Broker.fresh narrow ⟨0, 0⟩ {} []) earlier before ∧
    before.turn? (Simulated.Plan.service {}) (.move .dispatcher) =
      some (broker, [.handled (.cancel 1), .cancelled 1]) ∧
    ¬ broker.StaysCancelled (Simulated.Plan.service {}) 1 := by
  have runs : ∃ earlier before broker later last,
      (Broker.fresh narrow ⟨0, 0⟩ {} []).follow? (Simulated.Plan.service {}) overtaking =
        some (earlier, before) ∧
      before.turn? (Simulated.Plan.service {}) (.move .dispatcher) =
        some (broker, [.handled (.cancel 1), .cancelled 1]) ∧
      broker.follow? (Simulated.Plan.service {}) [.move (.call 1), .move .dispatcher] =
        some (later, last) ∧
      last.table.find? 1 = none ∧
      history later = [.accepted 1 (.complete 1), .answered 1 (.ok (.instances [])),
        .handled (.complete 1), .completed 1] := ⟨_, _, _, _, _, rfl, rfl, rfl, rfl, rfl⟩
  obtain ⟨earlier, before, broker, later, last, followed, handled, released, gone, events⟩ :=
    runs
  refine ⟨earlier, before, broker, .of_follow? followed, handled, fun stays => ?_⟩
  rcases stays later last (.of_follow? released) with
    ⟨slot, there, _⟩ | ⟨event, among, removes⟩
  · cases gone.symm.trans there
  · rw [events] at among
    simp only [List.mem_cons, List.not_mem_nil, or_false] at among
    rcases among with rfl | rfl | rfl | rfl <;> cases removes

end InstanceBroker
