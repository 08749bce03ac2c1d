import InstanceBroker.Proofs.Isolation.Visible
import InstanceBroker.Proofs.Withdrawal.View
import InstanceBroker.Proofs.Withdrawal.Waiting

namespace InstanceBroker

variable {World Task : Type} {service : Service World Task}

structure AnswerFades (caller : CallId) (id : TransactionId) (given given' : CallId × Outcome) :
    Prop where
  other : given.1 ≠ caller
  number : given'.1 = skip caller given.1
  outcome : Outcome.Fades id given.2 given'.2

namespace Broker

structure Likewise (caller : CallId) (id : TransactionId) (step step' : Step World Task) :
    Prop where
  without : step.1.Without caller id step'.1
  answers : List.Forall₂ (AnswerFades caller id) (answers step.2) (answers step'.2)

variable {broker bare after : Broker World Task} {caller other : CallId} {id : TransactionId}
  {events : List Event}

/-- The moves of the call and those that are made for it. -/
def Own (broker : Broker World Task) (caller : CallId) : Move → Prop
  | .dispatcher => broker.shutdown = false ∧
      ∃ action queue, broker.queue = action :: queue ∧ action.caller? = some caller
  | .run _ => False
  | .call other => other = caller

section Dispatcher

theorem launch_fst (service : Service World Task) (broker : Broker World Task)
    (operation : Operation) (caller : CallId) :
    (broker.launch service operation caller).1 =
      if ((broker.opening service operation).tell caller (.opened broker.table.nextId)).2 then
        ((broker.opening service operation).tell caller (.opened broker.table.nextId)).1
      else (broker.opening service operation).discard broker.table.nextId := by
  obtain ⟨request, waits, told⟩ | ⟨gone, told⟩ :=
    (broker.opening service operation).tell_cases caller (.opened broker.table.nextId)
  · rw [told]
    simp only [opening] at told
    simp only [launch, told]
    rfl
  · rw [told]
    simp only [opening] at told
    simp only [launch, told]
    rfl

theorem Without.launch (without : broker.Without caller id bare) (apart : other ≠ caller)
    (operation : Operation) :
    (broker.launch service operation other).1.Without caller id
      (bare.launch service operation (skip caller other)).1 := by
  have opening := without.opening service operation
  have same : DispatcherReply.Fades id (.opened broker.table.nextId) _ := .same
  have told := opening.tell apart same
  rw [launch_fst, launch_fst, without.table.nextId_eq, told.2]
  split
  · exact told.1
  · exact opening.discard _

theorem Without.handle (without : broker.Without caller id bare) {action : Action}
    (visible : action.caller? ≠ some caller) :
    Likewise caller id (broker.handle service action)
      (bare.handle service (action.renamed (skip caller))) := by
  refine ⟨?_, ?_⟩
  · cases action with
    | start operation other =>
      exact without.launch (fun same => visible (congrArg some same)) operation
    | getResult transaction other =>
      have apart : other ≠ caller := fun same => visible (congrArg some same)
      simp only [Action.renamed, Broker.handle]
      rcases without.table.access transaction with
        ⟨fault, denied, denied'⟩ | ⟨granted, granted'⟩
      · rw [denied, denied']
        exact (without.tell apart .same).1
      · rw [granted, granted']
        exact ((without.withTable (without.table.setState transaction .valueReady)).tell apart
          .same).1
    | cancel transaction =>
      simp only [Action.renamed, Broker.handle, without.table.isLive_eq]
      split
      · exact (without.signal transaction).withTable
          (without.table.setState transaction .cancelled)
      · exact without
    | complete transaction =>
      simp only [Action.renamed, Broker.handle, without.table.isLive_eq]
      split
      · exact without.withTable (without.table.erase transaction)
      · exact without
    | inspect other =>
      exact (without.tell (fun same => visible (congrArg some same))
        (.listing without.table.snapshot)).1
  · rw [(handles_of_handle service broker action).answers_eq,
      (handles_of_handle service bare _).answers_eq]
    exact .nil

theorem Without.stop (without : broker.Without caller id bare) :
    Likewise caller id broker.stop bare.stop := by
  refine ⟨?_, .nil⟩
  simp only [Broker.stop, without.table.ids_eq]
  exact ((without.foldl_signal _).withTable without.table.clear).withDispatcher .ended

theorem Without.sweep (without : broker.Without caller id bare) (ttl : Duration) (due : Nat) :
    Likewise caller id (broker.sweep ttl due) (bare.sweep ttl due) := by
  have clock : bare.clock = broker.clock := by
    obtain ⟨⟨queue, table, calls, rfl⟩, _⟩ := without
    rfl
  have next : bare.sweepAfter due = broker.sweepAfter due := by
    obtain ⟨⟨queue, table, calls, rfl⟩, _⟩ := without
    rfl
  refine ⟨?_, ?_⟩
  · simp only [Broker.sweep, clock, next, without.table.expired_eq]
    exact (without.foldl_discard _).withDispatcher _
  · simp [Broker.sweep, answers, List.filterMap_map]

theorem Without.dispatch? (without : broker.Without caller id bare)
    (senders : bare.hasSenders = broker.hasSenders) (visible : ¬ broker.Own caller .dispatcher) :
    Option.Rel (Likewise caller id) (broker.dispatch? service) (bare.dispatch? service) := by
  have settings : bare.dispatcher = broker.dispatcher ∧ bare.shutdown = broker.shutdown ∧
      bare.config = broker.config ∧ bare.clock = broker.clock := by
    obtain ⟨⟨queue, table, calls, rfl⟩, _⟩ := without
    exact ⟨rfl, rfl, rfl, rfl⟩
  obtain ⟨dispatcher, shutdown, config, clock⟩ := settings
  by_cases running : ∃ due, broker.dispatcher = .running due
  · obtain ⟨due, running⟩ := running
    have running' := dispatcher.trans running
    cases up : broker.shutdown with
    | true =>
      rw [dispatch?_of_down running up, dispatch?_of_down running' (shutdown.trans up)]
      exact .some without.stop
    | false =>
      have up' := shutdown.trans up
      cases head : broker.queue with
      | nil =>
        have idle : bare.queue = [] := by rw [without.queue, head]; rfl
        simp only [Broker.dispatch?, running, running', up, up', head, idle, senders, config, clock,
          Bool.false_eq_true, if_false]
        split
        · exact .some without.stop
        · split
          · split
            · exact .some (without.sweep _ due)
            · exact .none
          · exact .none
      | cons action rest =>
        have other : action.caller? ≠ some caller := fun own =>
          visible ⟨up, action, rest, head, own⟩
        have head' : bare.queue = action.renamed (skip caller) :: remaining caller rest := by
          rw [without.queue, head, remaining_other other]
        have handled : Likewise caller id (Broker.handle service _ action) _ :=
          (without.withQueue rest).handle other
        rw [dispatch?_of_head running up head (handles_of_handle service _ action),
          dispatch?_of_head running' up' head' (handles_of_handle service _ _)]
        exact .some ⟨handled.without, handled.answers⟩
  · have still (due : Nat) : broker.dispatcher ≠ .running due :=
      fun same => running ⟨due, same⟩
    rw [dispatch?_of_still still, dispatch?_of_still (by rw [dispatcher]; exact still)]
    exact .none

end Dispatcher

section Run

theorem Without.write? (without : broker.Without caller id bare) {transaction : TransactionId}
    (wanted : broker.isCancelled transaction = false →
      bare.isWanted transaction = broker.isWanted transaction) (run : Run Task)
    (value : ResultValue) :
    (broker.write? transaction run value = none ∧ bare.write? transaction run value = none) ∨
      ∃ middle middle' events accepted,
        broker.write? transaction run value = some ((middle, events), accepted) ∧
        bare.write? transaction run value = some ((middle', events), accepted) ∧
        middle.Without caller id middle' ∧ answers events = [] := by
  simp only [Broker.write?, without.isCancelled_eq, without.capacity_eq]
  cases cancelled : broker.isCancelled transaction with
  | true => exact .inr ⟨_, _, _, _, rfl, rfl, without, rfl⟩
  | false =>
    rw [wanted cancelled]
    split
    · exact .inr ⟨_, _, _, _, rfl, rfl, without, rfl⟩
    · split
      · exact .inr ⟨_, _, _, _, rfl, rfl, without.mapRun _ _, rfl⟩
      · exact .inl ⟨rfl, rfl⟩

theorem Without.advanceRun? (without : broker.Without caller id bare) {transaction : TransactionId}
    (wanted : ∀ run, broker.run? transaction = some run → run.held ≠ [] →
      broker.isCancelled transaction = false →
        bare.isWanted transaction = broker.isWanted transaction) :
    Option.Rel (Likewise caller id) (broker.advanceRun? service transaction)
      (bare.advanceRun? service transaction) := by
  simp only [Broker.advanceRun?, without.run?_eq, without.isCancelled_eq]
  cases begun : broker.run? transaction with
  | none => exact .none
  | some run =>
    have wanted := wanted run begun
    obtain ⟨queue, table, calls, rfl⟩ := without.frame
    simp only [Option.bind_eq_bind, Option.bind_some]
    cases phase : run.phase with
    | working task =>
      dsimp only
      split
      · exact .none
      · exact .some ⟨(without.withWorld _).mapRun _ _, .nil⟩
      · exact .some ⟨without.mapRun _ _, .nil⟩
      · split
        · exact .some ⟨(without.withWorld _).mapRun _ _, .nil⟩
        · exact .some ⟨(without.withWorld _).mapRun _ _, .nil⟩
    | reporting value task =>
      have wanted := wanted (by simp [Run.held, phase])
      rcases without.write? wanted run value with
        ⟨full, full'⟩ | ⟨_, _, _, _, wrote, wrote', middle, silent⟩
      · simp only [full, full', Option.bind_none]
        exact .none
      · simp only [wrote, wrote', Option.bind_some]
        refine .some ⟨middle.mapRun _ _, ?_⟩
        rw [silent]
        exact .nil
    | delivering value =>
      have wanted := wanted (by simp [Run.held, phase])
      rcases without.write? wanted run value with
        ⟨full, full'⟩ | ⟨_, _, events, _, wrote, wrote', middle, silent⟩
      · simp only [full, full', Option.bind_none]
        exact .none
      · simp only [wrote, wrote', Option.bind_some]
        refine .some ⟨middle.mapRun _ _, ?_⟩
        have ended : answers (events ++ [.ended transaction]) = [] := by
          rw [answers, List.filterMap_append, ← answers, silent]
          rfl
        rw [ended]
        exact .nil
    | ended => exact .none

end Run

section Call

structure Packed (broker : Broker World Task) : Prop where
  up : broker.shutdown = false
  accepts : broker.dispatcher.accepts = true
  full : broker.hasRoom = false

theorem Without.answer (without : broker.Without caller id bare) (apart : other ≠ caller)
    {outcome outcome' : Outcome} (fades : Outcome.Fades id outcome outcome') :
    Likewise caller id (broker.answer other outcome) (bare.answer (skip caller other) outcome') :=
  ⟨without.setPhase apart (.answered fades), .cons ⟨apart, rfl, fades⟩ .nil⟩

theorem Without.enqueue (without : broker.Without caller id bare) {action : Action}
    (visible : action.caller? ≠ some caller) :
    { broker with queue := broker.queue ++ [action] }.Without caller id
      { bare with queue := bare.queue ++ [action.renamed (skip caller)] } := by
  have more := without.withQueue (broker.queue ++ [action])
  rw [remaining_append, remaining_other visible, ← without.queue] at more
  exact more

theorem Request.visible_action {request : Request} (apart : other ≠ caller) :
    (request.action other).caller? ≠ some caller := by
  cases request with
  | cancel => exact nofun
  | initiate | collect | listTransactions => exact fun same => apart (Option.some.inj same)

theorem Without.submit? (without : broker.Without caller id bare) (apart : other ≠ caller)
    (request : Request) :
    (broker.submit? other request = none ∧ broker.Packed) ∨
      Option.Rel (Likewise caller id) (broker.submit? other request)
        (bare.submit? (skip caller other) request) := by
  have visible : (request.action other).caller? ≠ some caller := Request.visible_action apart
  have queued := without.enqueue visible
  rw [Request.renamed_action] at queued
  obtain ⟨queue, table, calls, rfl⟩ := without.frame
  simp only [Broker.submit?]
  split
  · exact .inr (.some (without.answer apart .same))
  · rename_i up
    split
    · exact .inr (.some (without.answer apart .same))
    · rename_i accepts
      cases room : broker.hasRoom with
      | false => exact .inl ⟨rfl, by simpa using up, by simpa using accepts, room⟩
      | true =>
        rw [if_pos rfl, if_pos (without.hasRoom_of_hasRoom room)]
        right
        cases request with
        | cancel transaction =>
          have same : Outcome.Fades id (.ok .cancelRequested) _ := .same
          have answered := queued.answer apart same
          exact .some ⟨answered.without, answered.answers⟩
        | initiate | collect | listTransactions =>
          exact .some ⟨queued.setPhase apart .same, .nil⟩

theorem Without.learn (without : broker.Without caller id bare) (apart : other ≠ caller)
    {reply reply' : DispatcherReply} (fades : reply.Fades id reply') :
    Likewise caller id (broker.learn other reply) (bare.learn (skip caller other) reply') := by
  cases fades with
  | same =>
    cases reply with
    | granted => exact ⟨without.setPhase apart .same, .nil⟩
    | opened | refused | listing => exact without.answer apart .same
  | listing fades => exact without.answer apart (.listing fades)

theorem Without.take? (without : broker.Without caller id bare) (apart : other ≠ caller)
    (kind : Operation.Kind) (transaction : TransactionId) :
    Option.Rel (Likewise caller id) (broker.take? other kind transaction)
      (bare.take? (skip caller other) kind transaction) := by
  have shutdown : bare.shutdown = broker.shutdown := by
    obtain ⟨⟨queue, table, calls, rfl⟩, _⟩ := without
    rfl
  simp only [Broker.take?, without.run?_eq, shutdown]
  cases broker.run? transaction with
  | none => exact .none
  | some run =>
    simp only [Option.bind_eq_bind, Option.bind_some]
    split
    · exact .some (without.answer apart .same)
    · cases run.buffer with
      | nil =>
        dsimp only
        split
        · exact .some (without.answer apart .same)
        · exact .none
      | cons value rest =>
        have taken := without.mapRun transaction ({ · with buffer := rest })
        cases releases : (kind.judge transaction value).releases with
        | true =>
          simp only [releases, if_true]
          exact .some ⟨taken.setPhase apart .same, .nil⟩
        | false =>
          simp only [releases, Bool.false_eq_true, if_false]
          have same : Outcome.Fades id (kind.judge transaction value).outcome _ := .same
          have answered := taken.answer apart same
          exact .some ⟨answered.without, answered.answers⟩

theorem Without.complete? (without : broker.Without caller id bare) (apart : other ≠ caller)
    (transaction : TransactionId) (outcome : Outcome) :
    (broker.complete? other transaction outcome = none ∧ broker.Packed) ∨
      Option.Rel (Likewise caller id) (broker.complete? other transaction outcome)
        (bare.complete? (skip caller other) transaction outcome) := by
  have visible : (Action.complete transaction).caller? ≠ some caller := nofun
  have queued := without.enqueue visible
  obtain ⟨queue, table, calls, rfl⟩ := without.frame
  simp only [Broker.complete?]
  split
  · exact .inr (.some (without.answer apart .same))
  · rename_i open_
    simp only [Bool.or_eq_true, Bool.not_eq_true', not_or, Bool.not_eq_true,
      Bool.not_eq_false] at open_
    cases room : broker.hasRoom with
    | false => exact .inl ⟨rfl, open_.1, open_.2, room⟩
    | true =>
      rw [if_pos rfl, if_pos (without.hasRoom_of_hasRoom room)]
      have same : Outcome.Fades id outcome outcome := .same
      have answered := queued.answer apart same
      exact .inr (.some ⟨answered.without, answered.answers⟩)

theorem Without.advanceCall? (without : broker.Without caller id bare) (apart : other ≠ caller) :
    (broker.advanceCall? other = none ∧ broker.Packed) ∨
      Option.Rel (Likewise caller id) (broker.advanceCall? other)
        (bare.advanceCall? (skip caller other)) := by
  have shutdown : bare.shutdown = broker.shutdown := by
    obtain ⟨⟨queue, table, calls, rfl⟩, _⟩ := without
    rfl
  cases found : broker.calls[other]? with
  | none =>
    have missing := none_of_rel (without.others other apart) found
    right
    simp only [Broker.advanceCall?, found, missing]
    exact .none
  | some call =>
    obtain ⟨call', found', fades⟩ := exists_of_rel (without.others other apart) found
    obtain ⟨request, phase⟩ := call
    obtain ⟨request', phase'⟩ := call'
    obtain ⟨rfl, fades⟩ := fades
    simp only [Broker.advanceCall?, found, found', Option.bind_eq_bind, Option.bind_some, shutdown]
    cases fades with
    | same =>
      cases phase with
      | submitting => exact without.submit? apart _
      | awaiting =>
        right
        dsimp only
        split
        · exact .some (without.answer apart .same)
        · exact .none
      | told reply =>
        right
        dsimp only
        split
        · exact .some (without.answer apart .same)
        · exact .some (without.learn apart .same)
      | reading =>
        cases request' with
        | collect kind transaction => exact .inr (without.take? apart kind transaction)
        | initiate | cancel | listTransactions => exact .inr .none
      | completing outcome =>
        cases request' with
        | collect kind transaction => exact without.complete? apart transaction outcome
        | initiate | cancel | listTransactions => exact .inr .none
      | answered | abandoned => exact .inr .none
    | told fades =>
      right
      dsimp only
      split
      · exact .some (without.answer apart .same)
      · exact .some (without.learn apart fades)
    | answered => exact .inr .none

end Call

end Broker

end InstanceBroker
