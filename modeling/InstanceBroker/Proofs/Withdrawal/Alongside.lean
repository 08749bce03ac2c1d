import InstanceBroker.Proofs.Isolation.Schedule
import InstanceBroker.Proofs.Withdrawal.Move

namespace InstanceBroker

variable {World Task : Type} {service : Service World Task}

theorem mem_answers {events : List Event} {caller : CallId} {outcome : Outcome} :
    (caller, outcome) ∈ answers events ↔ .answered caller outcome ∈ events := by
  simp only [answers, List.mem_filterMap]
  constructor
  · rintro ⟨event, among, given⟩
    cases event with
    | answered => cases given; exact among
    | _ => cases given
  · exact fun among => ⟨_, among, rfl⟩

namespace Broker

variable {broker bare after : Broker World Task} {caller : CallId} {id : TransactionId}
  {turn : Turn World} {events : List Event}

structure Sane (broker : Broker World Task) : Prop where
  formed : broker.WellFormed
  ascending : broker.table.ids.Pairwise (· < ·)
  manned : broker.Manned
  paced : broker.Paced
  roomy : 0 < broker.config.actionQueueCapacity

theorem Sane.step (sane : broker.Sane)
    (taken : broker.turn? service turn = some (after, events)) : after.Sane where
  formed := sane.formed.step taken
  ascending := ascending_step sane.formed taken sane.ascending
  manned := sane.manned.step taken
  paced := paced_step sane.paced taken
  roomy := by
    rw [(settings_step taken).1]
    exact sane.roomy

/-- The broker does not go on without the call, and besides the call nobody is left to answer. -/
structure Over (caller : CallId) (broker bare : Broker World Task) : Prop where
  unreachable : broker.reachable = false
  done : ∀ other, other ≠ caller → ∀ call, broker.calls[other]? = some call →
    call.isPending = false
  silent : bare.hasSenders = false
  paced : bare.Paced

structure Alongside (caller : CallId) (id : TransactionId) (broker bare : Broker World Task) :
    Prop where
  sane : broker.Sane
  idles : broker.Waiting caller id ∨ broker.GivenUp caller
  unread : ¬ broker.SoleReader caller id
  beside : broker.Without caller id bare ∨ broker.Over caller bare

section Own

theorem Without.tell_self (without : broker.Without caller id bare) (reply : DispatcherReply) :
    (broker.tell caller reply).1.Without caller id bare := by
  obtain ⟨_, _, told⟩ | ⟨_, told⟩ := broker.tell_cases caller reply <;> rw [told]
  · exact without.setPhase_self _
  · exact without

theorem Without.handles_own (sane : broker.Sane) (waiting : broker.Waiting caller id)
    (without : broker.Without caller id bare) {action : Action} {queue : List Action}
    (head : broker.queue = action :: queue) (asks : action.caller? = some caller)
    (handles : Handles service { broker with queue } action after events) :
    after.Without caller id bare := by
  obtain ⟨kind, phase, there, _⟩ := waiting
  obtain ⟨call, there', same, _⟩ :=
    sane.formed.asked action (head ▸ List.mem_cons_self) caller asks
  cases there.symm.trans there'
  subst same
  have unqueued : { bare with queue := remaining caller queue } = bare := by
    rw [← remaining_own asks, ← head, ← without.queue]
  have dequeued := without.withQueue queue
  rw [unqueued] at dequeued
  cases handles with
  | granted live usable =>
    have known := sane.formed.known id ((Table.isLive_iff ..).mp (Table.isLive_of_find? live))
    have fresh : id < broker.table.nextId := by
      rw [sane.formed.numbered]
      exact Nat.lt_succ_of_le known.2
    have granted := without.table.granted (sane.ascending.imp Nat.ne_of_lt) fresh live usable
    exact (dequeued.withTable granted).tell_self .granted
  | refused => exact dequeued.tell_self _

theorem Without.own (sane : broker.Sane) (waiting : broker.Waiting caller id)
    (without : broker.Without caller id bare) {move : Move} (own : broker.Own caller move)
    (fired : broker.fire? service move = some (after, events)) (waits : after.Waiting caller id) :
    after.Without caller id bare := by
  have taken : broker.turn? service (.move move) = some (after, events) := fired
  cases turns_of_turn? taken with
  | dispatched _ dispatches =>
    obtain ⟨up, action, queue, head, asks⟩ := own
    cases dispatches with
    | stopped final =>
      rcases final with down | ⟨idle, _⟩
      · rw [up] at down
        cases down
      · rw [head] at idle
        cases idle
    | handled _ head' handles =>
      cases head.symm.trans head'
      exact without.handles_own sane waiting head asks handles
    | swept _ idle =>
      rw [head] at idle
      cases idle
  | advanced => cases own
  | @progressed other call phase actions values _ asks progresses =>
    cases own
    obtain ⟨request, old⟩ := call
    obtain ⟨_, phase', there, waits⟩ := waits
    rw [(moved_frame ..).2.2, calls_setPhase, if_pos rfl, asks] at there
    cases there
    cases progresses with
    | queued =>
      have queued := without.withQueue (broker.queue ++ [.getResult id caller])
      rw [remaining_append, remaining_own rfl, ← without.queue] at queued
      have none : bare.queue ++ remaining caller [] = bare.queue := List.append_nil _
      rw [none] at queued
      exact queued.setPhase_self _
    | opened =>
      rw [moved_still]
      exact without.setPhase_self _
    | _ => cases waits

end Own

section Onward

theorem not_soleReader_of_givenUp (givenUp : broker.GivenUp caller) :
    ¬ broker.SoleReader caller id := by
  rintro ⟨⟨call, there, holds⟩, _⟩
  obtain ⟨⟨request, there'⟩, _⟩ := givenUp
  cases there.symm.trans there'
  cases request <;> cases holds

theorem Waiting.not_givenUp (waiting : broker.Waiting caller id) : ¬ broker.GivenUp caller := by
  rintro ⟨⟨_, there⟩, _⟩
  obtain ⟨_, _, there', waits⟩ := waiting
  cases there.symm.trans there'
  cases waits

theorem Alongside.onward (alongside : broker.Alongside caller id bare)
    (taken : broker.turn? service turn = some (after, events)) :
    (¬ broker.GivenUp caller ∧ after.Bound caller id) ∨
      (broker.Waiting caller id ∧ after.Waiting caller id ∨
          broker.GivenUp caller ∧ after.GivenUp caller) ∧
        ¬ after.SoleReader caller id ∧ ∀ outcome, .answered caller outcome ∉ events := by
  rcases alongside.idles with waiting | givenUp
  · rcases waiting_or_bound taken waiting with ⟨still, silent⟩ | bound
    · by_cases sole : after.SoleReader caller id
      · exact .inl ⟨waiting.not_givenUp, .inl sole⟩
      · exact .inr ⟨.inl ⟨waiting, still⟩, sole, silent⟩
    · exact .inl ⟨waiting.not_givenUp, bound⟩
  · obtain ⟨givenUp', silent⟩ := givenUp.step taken
    exact .inr ⟨.inr ⟨givenUp, givenUp'⟩, not_soleReader_of_givenUp givenUp', silent⟩

theorem Over.step (ceased : broker.Over caller bare)
    (taken : broker.turn? service turn = some (after, events)) : after.Over caller bare where
  unreachable := (settings_step taken).2.2.2.2 ceased.unreachable
  done other apart call found := by
    rcases call_origin taken found with ⟨old, before, _, step⟩ | ⟨_, _, _, reachable, _⟩
    · have closed := ceased.done other apart old before
      have same := step.settled closed
      rw [Call.isPending] at closed ⊢
      rw [same]
      exact closed
    · rw [ceased.unreachable] at reachable
      cases reachable
  silent := ceased.silent
  paced := ceased.paced

theorem asker_of_answers {move : Move} (fired : broker.fire? service move = some (after, events))
    {other : CallId} {outcome : Outcome} (among : (other, outcome) ∈ answers events) :
    move = .call other ∧ ∃ call, broker.calls[other]? = some call ∧
      call.isPending = true := by
  have taken : broker.turn? service (.move move) = some (after, events) := fired
  cases turns_of_turn? taken with
  | dispatched _ dispatches =>
    rw [dispatches.answers_eq] at among
    cases among
  | advanced _ advances =>
    rw [advances.answers_eq] at among
    cases among
  | progressed asks progresses =>
    cases progresses.of_answers among
    exact ⟨rfl, _, asks, progresses.pending⟩

theorem Over.answers_eq (ceased : broker.Over caller bare) {move : Move}
    (fired : broker.fire? service move = some (after, events))
    (silent : ∀ outcome, .answered caller outcome ∉ events) : answers events = [] := by
  refine List.eq_nil_iff_forall_not_mem.mpr ?_
  rintro ⟨other, outcome⟩ among
  obtain ⟨_, call, there, pending⟩ := asker_of_answers fired among
  by_cases own : other = caller
  · exact silent outcome (own ▸ mem_answers.mp among)
  · rw [ceased.done other own call there] at pending
    cases pending

theorem Own.answers_eq {move : Move} (own : broker.Own caller move)
    (fired : broker.fire? service move = some (after, events))
    (silent : ∀ outcome, .answered caller outcome ∉ events) : answers events = [] := by
  refine List.eq_nil_iff_forall_not_mem.mpr ?_
  rintro ⟨other, outcome⟩ among
  obtain ⟨rfl, _⟩ := asker_of_answers fired among
  cases own
  exact silent outcome (mem_answers.mp among)

theorem GivenUp.not_own (givenUp : broker.GivenUp caller) {move : Move}
    (fired : broker.fire? service move = some (after, events)) : ¬ broker.Own caller move := by
  intro own
  cases move with
  | dispatcher =>
    obtain ⟨_, action, queue, head, asks⟩ := own
    exact givenUp.unqueued action (head ▸ List.mem_cons_self) asks
  | run => cases own
  | call other =>
    cases own
    obtain ⟨_, there⟩ := givenUp.there
    obtain ⟨_, _, _, _, asks, progresses, _⟩ := progresses_of_advanceCall? fired
    cases there.symm.trans asks
    cases progresses.pending

theorem Without.ceased (without : broker.Without caller id bare) (paced : broker.Paced)
    (differ : bare.hasSenders ≠ broker.hasSenders) : broker.Over caller bare := by
  have senders := without.hasSenders_eq
  have silent : bare.hasSenders = false := by
    cases sends : bare.hasSenders with
    | false => rfl
    | true =>
      rw [senders, sends] at differ
      exact absurd rfl differ
  have closed := silent
  simp only [hasSenders, Bool.or_eq_false_iff, List.any_eq_false, Bool.not_eq_true] at closed
  obtain ⟨unreachable, quiet⟩ := closed
  refine ⟨?_, fun other apart call found => ?_, silent, ?_⟩
  · obtain ⟨queue, table, calls, rfl⟩ := without.frame
    exact unreachable
  · obtain ⟨call', found', fades⟩ := exists_of_rel (without.others other apart) found
    rw [← fades.isPending_eq]
    exact quiet call' (List.mem_of_getElem? found')
  · obtain ⟨queue, table, calls, rfl⟩ := without.frame
    exact paced

end Onward

section Visible

theorem Without.soleReader_of_differ (without : broker.Without caller id bare)
    (idles : broker.Waiting caller id ∨ broker.GivenUp caller) {transaction : TransactionId}
    (differ : bare.isWanted transaction ≠ broker.isWanted transaction) :
    transaction = id ∧ broker.isWanted id = true ∧
      ∀ after : Broker World Task, after.table = broker.table → after.calls = broker.calls →
        (∃ run, after.run? id = some run ∧ run.buffer ≠ []) →
          after.SoleReader caller id := by
  have wants := without.isWanted_eq transaction
  have unwanted : bare.isWanted transaction = false := by
    cases wanted : bare.isWanted transaction with
    | false => rfl
    | true =>
      rw [wants, wanted] at differ
      exact absurd rfl differ
  have wanted : broker.isWanted transaction = true := by
    rw [unwanted] at differ
    simpa using Ne.symm differ
  rw [unwanted, Bool.false_or, wanted] at wants
  obtain ⟨call, there, holds⟩ := (Option.any_eq_true ..).mp wants.symm
  have own : transaction = id := by
    obtain ⟨_, kind, asks⟩ := Call.pending_of_holds holds
    rcases idles with ⟨_, _, there', _⟩ | ⟨⟨_, there'⟩, _⟩
    · cases there.symm.trans there'
      cases asks
      rfl
    · cases there.symm.trans there'
      cases asks
      cases holds
  subst own
  simp only [isWanted, Bool.or_eq_false_iff, without.table.isLive_eq, List.any_eq_false,
    Bool.not_eq_true] at unwanted
  refine ⟨rfl, wanted, fun after table calls unread => ?_⟩
  constructor
  case holds => exact ⟨call, calls ▸ there, holds⟩
  case dead => exact table ▸ unwanted.1
  case alone =>
    intro other apart call found
    obtain ⟨call', found', fades⟩ :=
      exists_of_rel (without.others other apart) (calls ▸ found)
    rw [← fades.holds_eq]
    exact unwanted.2 call' (List.mem_of_getElem? found')
  case unread => exact unread

theorem unread_of_blocked {run : Run Task} (begun : broker.run? id = some run)
    (held : run.held ≠ []) (blocked : broker.advanceRun? service id = none) :
    run.buffer ≠ [] := by
  have ongoing : run.hasEnded = false := by
    cases ended : run.hasEnded with
    | false => rfl
    | true => simp [Run.held, Run.phase_of_hasEnded ended] at held
  rcases waits_of_blocked begun ongoing blocked with ⟨task, working, _⟩ | ⟨_, _, full⟩
  · simp [Run.held, working] at held
  · intro empty
    rw [empty] at full
    exact absurd full (Nat.not_le_of_lt (Nat.lt_of_lt_of_le Nat.one_pos (Nat.le_max_right ..)))

theorem Advances.unread {run next : Run Task} {world : World}
    (advances : Advances service broker id run world next events) (held : run.held ≠ [])
    (uncancelled : broker.isCancelled id = false) (wanted : broker.isWanted id = true) :
    next.buffer ≠ [] := by
  cases advances with
  | proceeded working | reported working | dropped working | finished working =>
    simp [Run.held, working] at held
  | accepted | delivered => simp
  | refused _ unwanted | undelivered _ unwanted =>
    rcases unwanted with cancelled | unwanted
    · rw [uncancelled] at cancelled
      cases cancelled
    · rw [wanted] at unwanted
      cases unwanted

theorem soleReader_of_wanted (without : broker.Without caller id bare)
    {transaction : TransactionId} {run : Run Task} (begun : broker.run? transaction = some run)
    (held : run.held ≠ []) (uncancelled : broker.isCancelled transaction = false)
    (differ : bare.isWanted transaction ≠ broker.isWanted transaction)
    (idles : broker.Waiting caller id ∨ broker.GivenUp caller) :
    broker.SoleReader caller id ∨ ∃ after events,
      broker.fire? service (.run transaction) = some (after, events) ∧
        after.SoleReader caller id := by
  obtain ⟨rfl, wanted, sole⟩ := without.soleReader_of_differ idles differ
  cases fired : broker.fire? service (.run transaction) with
  | none => exact .inl (sole broker rfl rfl ⟨run, begun, unread_of_blocked begun held fired⟩)
  | some step =>
    obtain ⟨after, events⟩ := step
    obtain ⟨run', next, world, begun', advances, rfl⟩ := advances_of_advanceRun? fired
    cases begun.symm.trans begun'
    have table := (@advanced_frame _ _ broker world transaction next).1
    have found : ({ broker with world }.mapRun transaction fun _ => next).run? transaction =
        some next := by
      rw [run?_mapRun, if_pos rfl]
      have same : { broker with world }.run? transaction = some run :=
        begun ▸ broker.run?_congr rfl transaction
      rw [same]
      rfl
    exact .inr ⟨_, events, rfl, sole _ (table ▸ rfl) (table ▸ rfl)
      ⟨next, found, advances.unread held uncancelled wanted⟩⟩

theorem Without.fire? (service : Service World Task) (without : broker.Without caller id bare)
    (idles : broker.Waiting caller id ∨ broker.GivenUp caller)
    (unread : ¬ broker.SoleReader caller id) (senders : bare.hasSenders = broker.hasSenders)
    {move : Move} (visible : ¬ broker.Own caller move) :
    (broker.fire? service move = none ∧ broker.Packed) ∨
      Option.Rel (Likewise caller id) (broker.fire? service move)
        (bare.fire? service (move.renamed (skip caller))) ∨
      ∃ after events, broker.fire? service move = some (after, events) ∧
        after.SoleReader caller id := by
  cases move with
  | dispatcher => exact .inr (.inl (without.dispatch? senders visible))
  | run transaction =>
    right
    by_cases wanted : ∀ run, broker.run? transaction = some run → run.held ≠ [] →
        broker.isCancelled transaction = false →
          bare.isWanted transaction = broker.isWanted transaction
    · exact .inl (without.advanceRun? wanted)
    · right
      push Not at wanted
      obtain ⟨run, begun, held, uncancelled, differ⟩ := wanted
      rcases soleReader_of_wanted without begun held uncancelled differ idles with
        sole | reads
      · exact absurd sole unread
      · exact reads
  | call other =>
    have apart : other ≠ caller := visible
    rcases without.advanceCall? apart with packed | related
    · exact .inl packed
    · exact .inr (.inl related)

end Visible

section Moves

/-- What is done next to a broker that goes on with these events to the one after it: unless the
call is bound to be answered, the other broker goes on alike in one of the ways it can. -/
def Matches (caller : CallId) (id : TransactionId) (broker : Broker World Task)
    (events : List Event) (after : Broker World Task)
    (other : List Event → Broker World Task → Prop) : Prop :=
  (¬ broker.GivenUp caller ∧ after.Bound caller id) ∨
    ∃ events' after', other events' after' ∧ after.Alongside caller id after' ∧
      List.Forall₂ (AnswerFades caller id) (answers events) (answers events')

theorem Matches.imp {other other' : List Event → Broker World Task → Prop}
    (matches_ : Matches caller id broker events after other)
    (more : ∀ events after, other events after → other' events after) :
    Matches caller id broker events after other' := by
  rcases matches_ with bound | ⟨events', after', goes, beside, told⟩
  · exact .inl bound
  · exact .inr ⟨events', after', more _ _ goes, beside, told⟩

def Fires (service : Service World Task) (broker : Broker World Task) (step : Step World Task) :
    Prop := ∃ move, broker.fire? service move = some step

def GoesNext (service : Service World Task) (broker : Broker World Task)
    (step : Step World Task) : Prop := broker.next? service = some step

def AtMost (goes : Broker World Task → Step World Task → Prop) (broker : Broker World Task)
    (events : List Event) (after : Broker World Task) : Prop :=
  (events = [] ∧ after = broker) ∨ goes broker (after, events)

theorem Matches.unseen {goes : Broker World Task → Step World Task → Prop}
    (beside : after.Alongside caller id bare) (mute : answers events = []) :
    Matches caller id broker events after (AtMost goes bare) :=
  .inr ⟨[], bare, .inl ⟨rfl, rfl⟩, beside, by rw [mute]; exact .nil⟩

structure Mirrored (service : Service World Task) (caller : CallId) (id : TransactionId)
    (broker bare : Broker World Task) (move : Move) (after : Broker World Task)
    (events : List Event) (bare' : Broker World Task) (events' : List Event) : Prop where
  without : broker.Without caller id bare
  senders : bare.hasSenders = broker.hasSenders
  visible : ¬ broker.Own caller move
  fired : bare.fire? service (move.renamed (skip caller)) = some (bare', events')
  alongside : after.Alongside caller id bare'
  answers : List.Forall₂ (AnswerFades caller id) (answers events) (answers events')

/-- What comes of a move next to the broker without the call: the call is bound to be answered, or
nothing of the move can be seen, or the move can be made there as well. -/
theorem Alongside.move (alongside : broker.Alongside caller id bare) {move : Move}
    (fired : broker.fire? service move = some (after, events)) :
    (¬ broker.GivenUp caller ∧ after.Bound caller id) ∨
      (after.Alongside caller id bare ∧ answers events = []) ∨
      ∃ bare' events',
        Mirrored service caller id broker bare move after events bare' events' := by
  have ⟨sane, idles, unread, beside⟩ := alongside
  have taken : broker.turn? service (.move move) = some (after, events) := fired
  rcases alongside.onward taken with bound | ⟨goes, unread', silent⟩
  · exact .inl bound
  · right
    have idles' : after.Waiting caller id ∨ after.GivenUp caller := goes.imp And.right And.right
    have ended (ceased : broker.Over caller bare) :
        after.Alongside caller id bare ∧ answers events = [] :=
      ⟨⟨sane.step taken, idles', unread', .inr (ceased.step taken)⟩,
        ceased.answers_eq fired silent⟩
    rcases beside with without | ceased
    · by_cases senders : bare.hasSenders = broker.hasSenders
      · by_cases own : broker.Own caller move
        · rcases goes with ⟨waiting, still⟩ | ⟨givenUp, _⟩
          · have unseen := without.own sane waiting own fired still
            exact .inl ⟨⟨sane.step taken, idles', unread', .inl unseen⟩,
              own.answers_eq fired silent⟩
          · exact absurd own (givenUp.not_own fired)
        · rcases without.fire? service idles unread senders own with
            ⟨blocked, _⟩ | related | ⟨_, _, fired', sole⟩
          · rw [fired] at blocked
            cases blocked
          · obtain ⟨⟨bare', events'⟩, fired', likewise⟩ := exists_of_rel related fired
            exact .inr ⟨bare', events', without, senders, own, fired',
              ⟨sane.step taken, idles', unread', .inl likewise.without⟩, likewise.answers⟩
          · cases fired.symm.trans fired'
            exact absurd sole unread'
      · exact .inl (ended (without.ceased sane.paced senders))
    · exact .inl (ended ceased)

theorem Alongside.fires (alongside : broker.Alongside caller id bare)
    (fires : Fires service broker (after, events)) :
    Matches caller id broker events after (AtMost (Fires service) bare) := by
  obtain ⟨move, fired⟩ := fires
  rcases alongside.move fired with bound | ⟨beside, mute⟩ | ⟨bare', events', mirrored⟩
  · exact .inl bound
  · exact .unseen beside mute
  · exact .inr ⟨events', bare', .inr ⟨_, mirrored.fired⟩, mirrored.alongside,
      mirrored.answers⟩

end Moves

section Blocked

theorem Sane.not_packed (sane : broker.Sane) (blocked : broker.fire? service .dispatcher = none) :
    ¬ broker.Packed := by
  intro packed
  rcases sane.manned with ⟨due, running⟩ | ended
  · have idle := queue_of_blocked running packed.up blocked
    have room : broker.hasRoom = true := by simp [hasRoom, idle, sane.roomy]
    rw [packed.full] at room
    cases room
  · have accepts := packed.accepts
    rw [ended] at accepts
    cases accepts

theorem Alongside.blocked (alongside : broker.Alongside caller id bare)
    (without : broker.Without caller id bare) (senders : bare.hasSenders = broker.hasSenders)
    (idle : broker.fire? service .dispatcher = none) {move : Move} (other : move ≠ .call caller)
    (blocked : broker.fire? service move = none) :
    bare.fire? service (move.renamed (skip caller)) = none := by
  have ⟨sane, idles, unread, _⟩ := alongside
  by_cases own : broker.Own caller move
  · cases move with
    | dispatcher =>
      -- An action waits, so the dispatcher is blocked because it does not run.
      obtain ⟨up, action, queue, head, _⟩ := own
      have still (due : Nat) : broker.dispatcher ≠ .running due := fun running => by
        rw [queue_of_blocked running up idle] at head
        cases head
      have dispatcher : bare.dispatcher = broker.dispatcher := by
        obtain ⟨queue, table, calls, rfl⟩ := without.frame
        rfl
      exact dispatch?_of_still (by rw [dispatcher]; exact still)
    | run => cases own
    | call => exact absurd (congrArg Move.call own) other
  · rcases without.fire? service idles unread senders own with
      ⟨_, packed⟩ | related | ⟨_, _, fired, _⟩
    · exact absurd packed (sane.not_packed idle)
    · exact none_of_rel related blocked
    · rw [blocked] at fired
      cases fired

theorem Alongside.settled (alongside : broker.Alongside caller id bare)
    (settled : broker.Settled service) : bare.Settled service ∨ broker.Over caller bare := by
  rcases alongside.beside with without | ceased
  · by_cases senders : bare.hasSenders = broker.hasSenders
    · left
      intro move
      have renamed :
          ∃ move' : Move, move' ≠ .call caller ∧ move'.renamed (skip caller) = move := by
        cases move with
        | dispatcher => exact ⟨.dispatcher, nofun, rfl⟩
        | run transaction => exact ⟨.run transaction, nofun, rfl⟩
        | call place =>
          obtain ⟨other, apart, rfl⟩ := exists_skip caller place
          exact ⟨.call other, fun same => apart (Move.call.inj same), rfl⟩
      obtain ⟨move, other, rfl⟩ := renamed
      exact alongside.blocked without senders (settled .dispatcher) other (settled move)
    · exact .inr (without.ceased alongside.sane.paced senders)
  · exact .inr ceased

end Blocked

section Order

theorem Without.participants_eq (without : broker.Without caller id bare) :
    bare.participants =
      (broker.participants.filter (· ≠ .call caller)).map (·.renamed (skip caller)) := by
  have count := without.count
  have inside : caller < bare.calls.length + 1 := Nat.lt_of_lt_of_eq without.inside count
  have inside := Nat.le_of_lt_succ inside
  have calls := range_skip inside
  have runs : bare.runs = broker.runs := by
    obtain ⟨queue, table, calls, rfl⟩ := without.frame
    rfl
  simp only [participants, count, runs, ← calls]
  simp [List.filter_map, Function.comp_def, Move.renamed]

theorem Alongside.next (alongside : broker.Alongside caller id bare)
    (next : GoesNext service broker (after, events)) :
    Matches caller id broker events after (AtMost (GoesNext service) bare) := by
  obtain ⟨first, move, later, order, fired, blocked⟩ := List.findSome?_eq_some_iff.mp next
  rcases alongside.move fired with bound | ⟨beside, mute⟩ | ⟨bare', events', mirrored⟩
  · exact .inl bound
  · exact .unseen beside mute
  · refine .inr ⟨events', bare', .inr ?_, mirrored.alongside, mirrored.answers⟩
    have other : move ≠ .call caller := by
      rintro rfl
      exact mirrored.visible rfl
    rw [GoesNext, next?, mirrored.without.participants_eq, order, List.filter_append,
      List.filter_cons_of_pos (by simpa using other), List.map_append, List.map_cons]
    refine List.findSome?_eq_some_iff.mpr ⟨_, _, _, rfl, mirrored.fired, ?_⟩
    intro earlier among
    obtain ⟨move', kept, rfl⟩ := List.mem_map.mp among
    obtain ⟨before, apart⟩ := List.mem_filter.mp kept
    -- Whoever comes before somebody else comes after the dispatcher or is the dispatcher.
    have idle : broker.fire? service .dispatcher = none := by
      cases first with
      | nil => cases before
      | cons head rest =>
        have leads : Move.dispatcher = head := (List.cons.inj order).1
        exact blocked _ (leads ▸ List.mem_cons_self)
    exact alongside.blocked mirrored.without mirrored.senders idle (by simpa using apart)
      (blocked move' before)

end Order

end Broker

end InstanceBroker
