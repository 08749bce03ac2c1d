import InstanceBroker.Proofs.Creation.Reader

namespace InstanceBroker

variable {World Task : Type} {service : Service World Task} {reports : List CreateResult}
  {outcome : Except OperationError CreateResult} {id : TransactionId} {count : Nat}

namespace Broker

/-- The transaction is live and no call is about to release it. -/
structure Unreleased (reports : List CreateResult) (broker : Broker World Task)
    (id : TransactionId) : Prop where
  live : broker.table.isLive id = true
  unasked : .complete id ∉ broker.queue
  early : ∀ caller given, broker.Reader id caller (.answered given) →
    broker.rank id caller < reports.length
  few : broker.readers id ≤ reports.length + 1
  idle : broker.AllAnswered id → broker.readers id ≤ reports.length

/-- The release stands in the queue before every request for a result. -/
def ReleaseFirst (id : TransactionId) (queue : List Action) : Prop :=
  ∃ front back, queue = front ++ .complete id :: back ∧
    ∀ caller, .getResult id caller ∉ front

structure Released (reports : List CreateResult) (broker : Broker World Task)
    (id : TransactionId) (count : Nat) : Prop where
  all : count = reports.length + 1
  late : ∃ caller given, broker.Reader id caller (.answered given) ∧
    reports.length ≤ broker.rank id caller
  many : reports.length + 1 ≤ broker.readers id
  waiting : ¬ broker.AllAnswered id → reports.length + 2 ≤ broker.readers id
  gone : broker.table.find? id = none ∨ ReleaseFirst id broker.queue

/-- Where a creation is of which `count` values were taken. -/
structure Creating (reports : List CreateResult) (outcome : Except OperationError CreateResult)
    (broker : Broker World Task) (id : TransactionId) (count : Nat) : Prop where
  kinds : ∀ (caller : CallId) kind phase,
    broker.calls[caller]? = some { request := .collect kind id, phase } → kind = .create
  answers : ∀ caller given, broker.Reader id caller (.answered given) →
    given = creationAnswer reports outcome id (broker.rank id caller)
  current : ∀ caller phase, broker.Reader id caller phase →
    (∀ given, phase ≠ .answered given) →
    broker.rank id caller + 1 = broker.readers id ∧
      Stage reports outcome id (broker.rank id caller) count phase
  idle : broker.AllAnswered id → count = min (broker.readers id) (reports.length + 1)
  slot : Unreleased reports broker id ∨ Released reports broker id count

/-- A call for a result of the transaction asks for that of a creation, and it is made once the
transaction was opened and all calls before it were answered. -/
def OneByOne (broker : Broker World Task) (id : TransactionId) (turn : Turn World) : Prop :=
  ∀ kind, turn = .input (.request (.collect kind id)) →
    kind = .create ∧ id < broker.table.nextId ∧ broker.AllAnswered id

variable {broker after : Broker World Task} {turn : Turn World} {events : List Event}

theorem unanswered_of_not_all (waiting : ¬ broker.AllAnswered id) :
    ∃ caller phase, broker.Reader id caller phase ∧ ∀ given, phase ≠ .answered given := by
  simp only [AllAnswered, Classical.not_forall] at waiting
  obtain ⟨caller, phase, reader, unanswered⟩ := waiting
  exact ⟨caller, phase, reader, phase.unanswered_or.resolve_right unanswered⟩

theorem readers_same (taken : broker.turn? service turn = some (after, events))
    (unasked : ∀ kind, turn ≠ .input (.request (.collect kind id))) :
    after.readers id = broker.readers id := by
  rcases readers_step taken with same | ⟨kind, asked, _⟩
  · exact same
  · exact absurd asked (unasked kind)

theorem rank_reader (taken : broker.turn? service turn = some (after, events)) {caller : CallId}
    {call : Call} (found : broker.calls[caller]? = some call) :
    after.rank id caller = broker.rank id caller :=
  rank_step taken (Nat.le_of_lt (List.getElem?_eq_some_iff.mp found).1)

theorem takes_alone
    (taken : broker.turn? service turn = some (after, events)) {run : Run Task}
    (begun : broker.run? id = some run) :
    takes id events = [] ∨ ∃ caller, turn = .move (.call caller) ∧
      broker.Reader id caller .reading := by
  obtain ⟨next, _, step⟩ := run_step taken begun
  cases step with
  | kept _ untaken | signalled _ untaken => exact .inl (takes_of_untaken untaken)
  | advanced advances => exact .inl (takes_of_untaken advances.buffer.2.1)
  | @read caller kind _ _ _ reader => exact .inr ⟨caller, rfl, kind, reader⟩

theorem live_step (formed : broker.WellFormed)
    (taken : broker.turn? service turn = some (after, events))
    (live : broker.table.isLive id = true) (unasked : .complete id ∉ broker.queue)
    (uncancelled : after.isCancelled id = false) : after.table.isLive id = true := by
  obtain ⟨slot, found⟩ := Option.isSome_iff_exists.mp live
  obtain ⟨run, begun⟩ := formed.run?_isSome live
  obtain ⟨next, there, run_step⟩ := run_step taken begun
  have unsignalled (event : Event) (among : event ∈ events)
    (dispatcher : turn = .move .dispatcher)
      (signals : event.Signals id) : False := by
    subst dispatcher
    cases run_step with
    | kept _ _ _ quiet => exact quiet event among signals
    | signalled => simp [isCancelled, there] at uncancelled
  have step := slot_step taken found (formed.old_of_find? found)
  rw [Table.isLive]
  generalize after.table.find? id = later at step
  cases step with
  | kept | accessed | cancelled => rfl
  | completed =>
    obtain ⟨_, _, _, _, head, _⟩ := handles_of_handled taken List.mem_cons_self
    exact absurd (head ▸ List.mem_cons_self) unasked
  | swept among => exact (unsignalled _ among rfl rfl).elim
  | stopped among => exact (unsignalled _ (List.mem_singleton.mpr rfl) rfl among).elim

theorem gone_step (formed : broker.WellFormed)
    (taken : broker.turn? service turn = some (after, events)) {run : Run Task}
    (begun : broker.run? id = some run)
    (gone : broker.table.find? id = none ∨ ReleaseFirst id broker.queue) :
    after.table.find? id = none ∨ ReleaseFirst id after.queue := by
  rcases gone with missing | ⟨front, back, shape, unasked⟩
  · left
    rcases slot_begun taken missing with still | ⟨next, _⟩
    · exact still
    · have known := ((broker.run?_isSome_iff id).mp (Option.isSome_of_eq_some begun)).2
      rw [next, formed.numbered] at known
      exact absurd known (Nat.not_succ_le_self _)
  · cases queue_step taken with
    | kept same =>
      rw [same]
      exact .inr ⟨front, back, shape, unasked⟩
    | queued _ _ result =>
      rw [result, queue_moved, shape, List.append_assoc]
      exact .inr ⟨front, _, rfl, unasked⟩
    | handled up head =>
      rw [head] at shape
      cases front with
      | nil =>
        obtain ⟨rfl, _⟩ := List.cons.inj shape
        obtain ⟨_, _, _, _, _, handles⟩ := handles_of_handled taken List.mem_cons_self
        exact .inl handles.released_slot
      | cons first front =>
        obtain ⟨rfl, rest⟩ := List.cons.inj shape
        exact .inr ⟨front, back, rest, fun caller among =>
          unasked caller (List.mem_cons_of_mem _ among)⟩

namespace Creating

theorem unique (creating : Creating reports outcome broker id count) {first second : CallId}
    {phase phase' : Call.Phase} (one : broker.Reader id first phase)
    (open_ : ∀ given, phase ≠ .answered given) (two : broker.Reader id second phase')
    (open' : ∀ given, phase' ≠ .answered given) : first = second := by
  have rank := (creating.current first phase one open_).1
  have rank' := (creating.current second phase' two open').1
  exact one.eq_of_rank two (Nat.succ.inj (rank.trans rank'.symm))

theorem grants (creating : Creating reports outcome broker id count) (formed : broker.WellFormed)
    (serves : Serves reports outcome broker id count) {caller : CallId} {phase : Call.Phase}
    (reader : broker.Reader id caller phase) {queue : List Action} {reply : DispatcherReply}
    (head : broker.queue = .getResult id caller :: queue)
    (replies : broker.reply? (.getResult id caller) = some reply) (waits : phase = .awaiting) :
    Stage reports outcome id (broker.rank id caller) count (.told reply) := by
  subst waits
  have unanswered : ∀ given, Call.Phase.awaiting ≠ .answered given := by simp
  obtain ⟨rank, stage⟩ := creating.current caller _ reader unanswered
  have waiting := reader.waiting unanswered
  rcases broker.reply?_getResult id caller with
    ⟨missing, refused⟩ | ⟨slot, live, ⟨cancelled, _⟩ | ⟨_, granted⟩⟩
  · cases refused.symm.trans replies
    rcases creating.slot with unreleased | released
    · have live := unreleased.live
      rw [Table.isLive, missing] at live
      cases live
    · have beyond := released.waiting waiting
      rw [← rank] at beyond
      exact ⟨rfl, Nat.le_of_succ_le_succ beyond, released.all⟩
  · obtain ⟨run, found, uncancelled, _⟩ := serves.run
    obtain ⟨run', found', cancelled⟩ := formed.cancelled id slot live cancelled
    cases found.symm.trans found'
    rw [cancelled] at uncancelled
    cases uncancelled
  · cases granted.symm.trans replies
    rcases creating.slot with unreleased | released
    · have few := unreleased.few
      rw [← rank] at few
      have within : broker.rank id caller ≤ reports.length := Nat.le_of_succ_le_succ few
      refine ⟨within, ?_⟩
      rw [stage]
      exact Nat.min_eq_left (Nat.le_succ_of_le within)
    · rcases released.gone with missing | ⟨front, back, shape, unasked⟩
      · cases missing.symm.trans live
      · rw [head] at shape
        cases front with
        | nil => cases shape
        | cons first front =>
          cases shape
          exact absurd List.mem_cons_self (unasked caller)

theorem stage (creating : Creating reports outcome broker id count) (formed : broker.WellFormed)
    (serves : Serves reports outcome broker id count)
    (taken : broker.turn? service turn = some (after, events)) {caller : CallId}
    {kind : Operation.Kind} {phase next : Call.Phase}
    (found : broker.calls[caller]? = some { request := .collect kind id, phase })
    (unanswered : ∀ given, phase ≠ .answered given)
    (step : CallStep broker after caller { request := .collect kind id, phase } turn events next) :
    Stage reports outcome id (after.rank id caller) (count + (takes id events).length) next ∧
      ∀ given, next = .answered given → after.rank id caller = reports.length →
        .complete id ∈ after.queue := by
  cases creating.kinds caller kind phase found
  have reader : broker.Reader id caller phase := ⟨_, found⟩
  have stage := (creating.current caller phase reader unanswered).2
  rw [rank_reader taken found]
  -- Whoever else took a value would be a second call that has not been answered.
  refine stage_step formed serves found unanswered stage step (fun other => ?_)
    fun queue reply head => creating.grants formed serves reader head
  obtain ⟨run, begun, _⟩ := serves.run
  rcases takes_alone taken begun with none | ⟨_, rfl, reading⟩
  · exact none
  · have same := creating.unique reading (by simp) reader unanswered
    exact absurd (same ▸ rfl) other

theorem answers_step (creating : Creating reports outcome broker id count)
    (formed : broker.WellFormed) (serves : Serves reports outcome broker id count)
    (taken : broker.turn? service turn = some (after, events)) {caller : CallId} {given : Outcome}
    (reader : after.Reader id caller (.answered given)) :
    given = creationAnswer reports outcome id (after.rank id caller) := by
  rcases reader.origin taken with ⟨kind, phase, found, step⟩ | ⟨_, _, _, fresh⟩
  · rcases phase.unanswered_or with unanswered | ⟨earlier, rfl⟩
    · exact (creating.stage formed serves taken found unanswered step).1.1
    · have same := step.settled rfl
      cases same
      rw [rank_reader taken found]
      exact creating.answers caller given ⟨kind, found⟩
  · cases fresh

theorem kinds_step (creating : Creating reports outcome broker id count)
    (taken : broker.turn? service turn = some (after, events))
    (oneByOne : broker.OneByOne id turn) {caller : CallId} {kind : Operation.Kind}
    {phase : Call.Phase}
    (found : after.calls[caller]? = some { request := .collect kind id, phase }) :
    kind = .create := by
  rcases call_origin taken found with
    ⟨⟨request, earlier⟩, before, same, _⟩ | ⟨_, asked, _⟩
  · cases same
    exact creating.kinds caller kind earlier before
  · exact (oneByOne kind asked).1

theorem current_step (creating : Creating reports outcome broker id count)
    (formed : broker.WellFormed) (serves : Serves reports outcome broker id count)
    (taken : broker.turn? service turn = some (after, events))
    (oneByOne : broker.OneByOne id turn) {caller : CallId} {next : Call.Phase}
    (reader : after.Reader id caller next) (unanswered : ∀ given, next ≠ .answered given) :
    after.rank id caller + 1 = after.readers id ∧
      Stage reports outcome id (after.rank id caller) (count + (takes id events).length) next := by
  rcases reader.origin taken with ⟨kind, phase, found, step⟩ | ⟨kind, rfl, rfl, rfl⟩
  · have before : ∀ given, phase ≠ .answered given := by
      rintro given rfl
      exact unanswered given (step.settled rfl)
    have unasked : ∀ kind, turn ≠ .input (.request (.collect kind id)) := by
      intro other asked
      obtain ⟨given, equal⟩ := (oneByOne other asked).2.2 caller phase ⟨kind, found⟩
      exact before given equal
    refine ⟨?_, (creating.stage formed serves taken found before step).1⟩
    rw [rank_reader taken found, readers_same taken unasked]
    exact (creating.current caller phase ⟨kind, found⟩ before).1
  · have all := (oneByOne kind rfl).2.2
    have place : after.rank id broker.calls.length = broker.readers id := rank_after taken
    have grown : after.readers id = broker.readers id + 1 := by
      rcases readers_step taken with same | ⟨_, _, grown, _⟩
      · have less := reader.rank_lt_readers
        rw [place, same] at less
        exact absurd less (Nat.lt_irrefl _)
      · exact grown
    rw [place, grown]
    cases taken
    exact ⟨rfl, creating.idle all⟩

theorem answering (creating : Creating reports outcome broker id count)
    (formed : broker.WellFormed) (serves : Serves reports outcome broker id count)
    (taken : broker.turn? service turn = some (after, events))
    (all : after.AllAnswered id) :
    after.readers id = broker.readers id ∧
      (broker.AllAnswered id ∧ takes id events = [] ∨
        ∃ caller, broker.rank id caller + 1 = broker.readers id ∧
          count + (takes id events).length =
            min (broker.rank id caller + 1) (reports.length + 1) ∧
          (broker.rank id caller = reports.length → .complete id ∈ after.queue)) := by
  have same : after.readers id = broker.readers id := by
    rcases readers_step taken with same | ⟨_, _, _, fresh⟩
    · exact same
    · exact absurd all (fresh.waiting (by simp))
  refine ⟨same, ?_⟩
  by_cases before : broker.AllAnswered id
  · left
    obtain ⟨run, begun, _⟩ := serves.run
    rcases takes_alone taken begun with none | ⟨caller, _, reading⟩
    · exact ⟨before, none⟩
    · exact absurd before (reading.waiting (by simp))
  · right
    obtain ⟨caller, phase, ⟨kind, found⟩, unanswered⟩ := unanswered_of_not_all before
    obtain ⟨next, there, step⟩ := call_step taken found
    obtain ⟨given, rfl⟩ := all caller next ⟨kind, there⟩
    obtain ⟨⟨_, reached⟩, releases⟩ :=
      creating.stage formed serves taken found unanswered step
    rw [rank_reader taken found] at reached releases
    exact ⟨caller, (creating.current caller phase ⟨kind, found⟩ unanswered).1, reached,
      releases given rfl⟩

theorem idle_step (creating : Creating reports outcome broker id count)
    (formed : broker.WellFormed) (serves : Serves reports outcome broker id count)
    (taken : broker.turn? service turn = some (after, events))
    (all : after.AllAnswered id) :
    count + (takes id events).length = min (after.readers id) (reports.length + 1) := by
  obtain ⟨same, ⟨before, none⟩ | ⟨caller, rank, reached, _⟩⟩ :=
    creating.answering formed serves taken all
  · rw [none, same]
    exact creating.idle before
  · rw [same, ← rank]
    exact reached

theorem unasked_of_completing (creating : Creating reports outcome broker id count)
    (formed : broker.WellFormed) {caller : CallId} {given : Outcome}
    (reader : broker.Reader id caller (.completing given)) (other : CallId) :
    .getResult id other ∉ broker.queue := by
  intro asked
  obtain ⟨⟨request, phase⟩, there, same, unheard⟩ := formed.asked _ asked other rfl
  cases request with
  | collect kind transaction =>
    cases same
    have reader' : broker.Reader id other phase := ⟨kind, there⟩
    have alone (unanswered : ∀ given, phase ≠ .answered given) : phase = .completing given := by
      cases creating.unique reader' unanswered reader (by simp)
      exact reader'.phase_eq reader
    rcases unheard with rfl | rfl | rfl
    · cases alone (by simp)
    · exact creationAnswer_ne_cancelled _ (creating.answers other _ reader').symm
    · cases alone (by simp)
  | initiate | cancel | listTransactions => cases same

theorem allAnswered_of_released (creating : Creating reports outcome broker id count)
    {caller : CallId} {given : Outcome} (reader : broker.Reader id caller (.completing given))
    (taken : broker.turn? service (.move (.call caller)) = some (after, events))
    (answered : after.Reader id caller (.answered given)) : after.AllAnswered id := by
  intro other next reader'
  rcases reader'.origin taken with ⟨kind, phase, found, step⟩ | ⟨_, asked, _⟩
  · rcases phase.unanswered_or with unanswered | ⟨earlier, rfl⟩
    · cases creating.unique ⟨kind, found⟩ unanswered reader (by simp)
      exact ⟨given, reader'.phase_eq answered⟩
    · exact ⟨earlier, step.settled rfl⟩
  · cases asked

theorem released_of_queued (creating : Creating reports outcome broker id count)
    (formed : broker.WellFormed)
    (taken : broker.turn? service turn = some (after, events))
    (unasked : .complete id ∉ broker.queue) (queued : .complete id ∈ after.queue) :
    Released reports after id (count + (takes id events).length) := by
  obtain ⟨caller, kind, given, rfl, rfl, asks, result⟩ :=
    (release_step taken queued).resolve_left unasked
  have reader : broker.Reader id caller (.completing given) := ⟨kind, asks⟩
  have answered : after.Reader id caller (.answered given) := by
    refine ⟨kind, ?_⟩
    rw [result, (moved_frame ..).2.2, calls_setPhase, if_pos rfl, asks]
    rfl
  obtain ⟨rank, _, last, all⟩ := creating.current caller _ reader (by simp)
  have rank' : after.rank id caller = broker.rank id caller := rank_reader taken asks
  have same : after.readers id = broker.readers id := readers_same taken (by simp)
  constructor
  case all => exact all
  case late => exact ⟨caller, given, answered, Nat.le_of_eq (rank'.trans last).symm⟩
  case many =>
    have full : reports.length + 1 = after.readers id := by rw [same, ← rank, last]
    exact Nat.le_of_eq full
  case waiting =>
    exact fun waiting => absurd (creating.allAnswered_of_released reader taken answered) waiting
  case gone =>
    right
    refine ⟨broker.queue, [], ?_, creating.unasked_of_completing formed reader⟩
    rw [result, queue_moved]

theorem unreleased_step (creating : Creating reports outcome broker id count)
    (unreleased : Unreleased reports broker id) (formed : broker.WellFormed)
    (serves : Serves reports outcome broker id count)
    (taken : broker.turn? service turn = some (after, events))
    (oneByOne : broker.OneByOne id turn) (uncancelled : after.isCancelled id = false)
    (unqueued : .complete id ∉ after.queue) : Unreleased reports after id := by
  -- The call that reads the outcome would have queued the release.
  have early {rank : Nat} (place : rank + 1 = broker.readers id)
      (releases : rank = reports.length → .complete id ∈ after.queue) :
      rank < reports.length := by
    have few := unreleased.few
    rw [← place] at few
    have within : rank ≤ reports.length := Nat.le_of_succ_le_succ few
    exact Nat.lt_of_le_of_ne within fun equal => unqueued (releases equal)
  constructor
  case live => exact live_step formed taken unreleased.live unreleased.unasked uncancelled
  case unasked => exact unqueued
  case early =>
    intro caller given reader
    rcases reader.origin taken with ⟨kind, phase, found, step⟩ | ⟨_, _, _, fresh⟩
    · have rank : after.rank id caller = broker.rank id caller := rank_reader taken found
      rcases phase.unanswered_or with unanswered | ⟨earlier, rfl⟩
      · have releases := (creating.stage formed serves taken found unanswered step).2 given rfl
        rw [rank] at releases ⊢
        exact early (creating.current caller phase ⟨kind, found⟩ unanswered).1 releases
      · rw [rank]
        exact unreleased.early caller earlier ⟨kind, found⟩
    · cases fresh
  case few =>
    rcases readers_step taken with same | ⟨kind, asked, grown, _⟩
    · rw [same]
      exact unreleased.few
    · rw [grown]
      exact Nat.succ_le_succ (unreleased.idle (oneByOne kind asked).2.2)
  case idle =>
    intro all
    obtain ⟨same, ⟨before, _⟩ | ⟨caller, place, _, releases⟩⟩ :=
      creating.answering formed serves taken all
    · rw [same]
      exact unreleased.idle before
    · rw [same, ← place]
      exact early place releases

theorem released_step (creating : Creating reports outcome broker id count)
    (released : Released reports broker id count) (formed : broker.WellFormed)
    (serves : Serves reports outcome broker id count)
    (taken : broker.turn? service turn = some (after, events)) :
    Released reports after id (count + (takes id events).length) := by
  obtain ⟨run, begun, _⟩ := serves.run
  have more : broker.readers id ≤ after.readers id := by
    rcases readers_step taken with same | ⟨_, _, grown, _⟩
    · exact Nat.le_of_eq same.symm
    · rw [grown]
      exact Nat.le_succ _
  constructor
  case all =>
    rcases takes_alone taken begun with none | ⟨caller, _, reading⟩
    · rw [none]
      exact released.all
    · have unanswered : ∀ given, Call.Phase.reading ≠ .answered given := by simp
      obtain ⟨place, within, _⟩ := creating.current caller _ reading unanswered
      have beyond := released.waiting (reading.waiting unanswered)
      rw [← place] at beyond
      exact absurd within (Nat.not_le_of_lt (Nat.le_of_succ_le_succ beyond))
  case late =>
    obtain ⟨caller, given, ⟨kind, found⟩, late⟩ := released.late
    obtain ⟨next, there, step⟩ := call_step taken found
    have same : next = .answered given := step.settled rfl
    refine ⟨caller, given, ⟨kind, same ▸ there⟩, ?_⟩
    rw [rank_reader taken found]
    exact late
  case many => exact Nat.le_trans released.many more
  case waiting =>
    intro waiting
    by_cases before : broker.AllAnswered id
    · obtain ⟨caller, next, reader, unanswered⟩ := unanswered_of_not_all waiting
      rcases reader.origin taken with ⟨kind, phase, found, step⟩ | ⟨_, asked, rfl, rfl⟩
      · obtain ⟨earlier, rfl⟩ := before caller phase ⟨kind, found⟩
        exact absurd (step.settled rfl) (unanswered earlier)
      · have less := reader.rank_lt_readers
        rw [rank_after taken] at less
        exact Nat.le_trans (Nat.succ_le_succ released.many) less
    · exact Nat.le_trans (released.waiting before) more
  case gone => exact gone_step formed taken begun released.gone

/-- Every turn leads a creation on, as long as it is not cancelled and the calls come one at a
time. -/
theorem step (creating : Creating reports outcome broker id count) (formed : broker.WellFormed)
    (serves : Serves reports outcome broker id count)
    (taken : broker.turn? service turn = some (after, events))
    (oneByOne : broker.OneByOne id turn) (uncancelled : after.isCancelled id = false) :
    Creating reports outcome after id (count + (takes id events).length) where
  kinds _ _ _ := creating.kinds_step taken oneByOne
  answers _ _ := creating.answers_step formed serves taken
  current _ _ := creating.current_step formed serves taken oneByOne
  idle := creating.idle_step formed serves taken
  slot := by
    rcases creating.slot with unreleased | released
    · by_cases queued : .complete id ∈ after.queue
      · exact .inr (creating.released_of_queued formed taken unreleased.unasked queued)
      · exact .inl (creating.unreleased_step unreleased formed serves taken oneByOne uncancelled
          queued)
    · exact .inr (creating.released_step released formed serves taken)

end Creating

end Broker

end InstanceBroker
