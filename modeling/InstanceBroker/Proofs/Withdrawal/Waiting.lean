import InstanceBroker.Proofs.Expiry
import InstanceBroker.Proofs.Isolation.Hidden
import InstanceBroker.Proofs.Seal

namespace InstanceBroker

variable {World Task : Type} {service : Service World Task}

/-- The call has got nothing yet, and nothing stands in its way. -/
def Call.Phase.waits : Call.Phase → Bool
  | .submitting | .awaiting | .told .granted | .reading => true
  | _ => false

namespace Broker

variable {broker after : Broker World Task} {caller : CallId} {id : TransactionId}
  {turn : Turn World} {events : List Event}

def Waiting (caller : CallId) (id : TransactionId) (broker : Broker World Task) : Prop :=
  ∃ kind phase, broker.calls[caller]? = some { request := .collect kind id, phase } ∧
    phase.waits = true

structure GivenUp (caller : CallId) (broker : Broker World Task) : Prop where
  there : ∃ request, broker.calls[caller]? = some { request, phase := .abandoned }
  unqueued : ∀ action ∈ broker.queue, action.caller? ≠ some caller

structure SoleReader (caller : CallId) (id : TransactionId) (broker : Broker World Task) :
    Prop where
  holds : ∃ call, broker.calls[caller]? = some call ∧ call.holds id = true
  dead : broker.table.isLive id = false
  alone : ∀ other, other ≠ caller → ∀ call, broker.calls[other]? = some call →
    call.holds id = false
  unread : ∃ run, broker.run? id = some run ∧ run.buffer ≠ []

/-- The call waits no more, or cannot go on waiting. -/
def Bound (caller : CallId) (id : TransactionId) (broker : Broker World Task) : Prop :=
  SoleReader caller id broker ∨
    ∃ call, broker.calls[caller]? = some call ∧ call.phase.waits = false

section Steps

theorem waits_before {call : Call} {phase : Call.Phase}
    (step : CallStep broker after caller call turn events phase) (waits : phase.waits = true) :
    call.phase.waits = true := by
  cases step with
  | kept => exact waits
  | told awaiting => rw [awaiting]; rfl
  | progressed progresses =>
    cases progresses with
    | queued | opened => rfl
    | _ => cases waits
  | abandoned => cases waits

theorem unanswered_of_waits {call : Call} {phase : Call.Phase}
    (step : CallStep broker after caller call turn events phase) (waits : phase.waits = true)
    (outcome : Outcome) : .answered caller outcome ∉ events := by
  intro among
  cases step with
  | kept _ quiet => exact quiet _ among rfl
  | told _ _ _ _ _ quiet => exact quiet _ among rfl
  | progressed progresses =>
    cases progresses with
    | queued | opened => simp at among
    | _ => cases waits
  | abandoned => cases waits

theorem waiting_or_bound (taken : broker.turn? service turn = some (after, events))
    (waiting : broker.Waiting caller id) :
    (after.Waiting caller id ∧ ∀ outcome, .answered caller outcome ∉ events) ∨
      after.Bound caller id := by
  obtain ⟨kind, phase, there, _⟩ := waiting
  obtain ⟨next, there', step⟩ := call_step taken there
  cases waits : next.waits with
  | true => exact .inl ⟨⟨kind, next, there', waits⟩, unanswered_of_waits step waits⟩
  | false => exact .inr (.inr ⟨_, there', waits⟩)

theorem Progresses.caller_of_queued {call : Call} {phase : Call.Phase} {actions : List Action}
    {taken : Option (TransactionId × List ResultValue)}
    (progresses : Progresses broker caller call phase actions taken events) {action : Action}
    (queued : action ∈ actions) {other : CallId} (asks : action.caller? = some other) :
    other = caller := by
  cases progresses with
  | @queued request =>
    cases List.mem_singleton.mp queued
    cases request <;> cases asks <;> rfl
  | cancelQueued | released =>
    cases List.mem_singleton.mp queued
    cases asks
  | _ => cases queued

theorem GivenUp.step (taken : broker.turn? service turn = some (after, events))
    (givenUp : broker.GivenUp caller) :
    after.GivenUp caller ∧ ∀ outcome, .answered caller outcome ∉ events := by
  obtain ⟨⟨request, there⟩, unqueued⟩ := givenUp
  obtain ⟨phase, there', step⟩ := call_step taken there
  have phase_eq := step.settled rfl
  simp only at phase_eq
  subst phase_eq
  refine ⟨⟨⟨request, there'⟩, fun action queued asks => ?_⟩, fun outcome among => ?_⟩
  · cases queue_step taken with
    | kept same => exact unqueued action (same ▸ queued) asks
    | handled _ head => exact unqueued action (head ▸ List.mem_cons_of_mem _ queued) asks
    | @queued asker _ _ _ _ _ asking progresses result =>
      rw [result, queue_moved] at queued
      rcases List.mem_append.mp queued with old | new
      · exact unqueued action old asks
      · cases progresses.caller_of_queued new asks
        cases there.symm.trans asking
        cases progresses.pending
  · cases step with
    | kept _ quiet => exact quiet _ among rfl
    | progressed progresses => cases progresses.pending
    | abandoned pending => cases pending

theorem holds_of_waits {call : Call} {phase : Call.Phase}
    (step : CallStep broker after caller call turn events phase) (waits : phase.waits = true)
    (holds : call.holds id = true) : ({ call with phase } : Call).holds id = true := by
  cases step with
  | kept => exact holds
  | told awaiting =>
    obtain ⟨request, phase⟩ := call
    cases awaiting
    cases request <;> cases holds
  | progressed progresses =>
    cases progresses with
    | @opened request => cases request <;> exact holds
    | @queued request => cases request <;> cases holds
    | _ => cases waits
  | abandoned => cases waits

theorem unread_step {run next : Run Task} (unread : run.buffer ≠ [])
    (ran : RunStep service broker id run turn events next)
    (unmoved : ∀ reader kind, broker.calls[reader]? =
      some { request := .collect kind id, phase := .reading } → turn ≠ .move (.call reader)) :
    next.buffer ≠ [] := by
  cases ran with
  | kept | signalled => exact unread
  | advanced advances =>
    cases advances with
    | accepted | delivered => simp
    | _ => exact unread
  | read reading => exact absurd rfl (unmoved _ _ reading)

theorem SoleReader.step (formed : broker.WellFormed)
    (taken : broker.turn? service turn = some (after, events))
    (sole : broker.SoleReader caller id) : after.Bound caller id := by
  obtain ⟨⟨call, there, holds⟩, dead, alone, run, begun, unread⟩ := sole
  obtain ⟨phase, there', step⟩ := call_step taken there
  cases waits : phase.waits with
  | false => exact .inr ⟨_, there', waits⟩
  | true =>
    refine .inl ⟨⟨_, there', holds_of_waits step waits holds⟩,
      dead_step formed taken begun dead,
      fun other apart _ => unheld_step formed taken dead (alone other apart), ?_⟩
    obtain ⟨next, begun', ran⟩ := run_step taken begun
    refine ⟨next, begun', unread_step unread ran ?_⟩
    rintro reader kind reading rfl
    -- Whoever reads holds the results, and that is the call alone.
    by_cases equal : reader = caller
    · subst equal
      cases there.symm.trans reading
      cases step with
      | kept other => exact absurd rfl other
      | progressed progresses => cases progresses <;> cases waits
    · have held : ({ request := .collect kind id, phase := .reading } : Call).holds id = true :=
        beq_self_eq_true id
      rw [alone reader equal _ reading] at held
      cases held

theorem Bound.step (formed : broker.WellFormed)
    (taken : broker.turn? service turn = some (after, events)) (bound : broker.Bound caller id) :
    after.Bound caller id := by
  rcases bound with sole | ⟨call, there, stopped⟩
  · exact sole.step formed taken
  · obtain ⟨phase, there', step⟩ := call_step taken there
    cases waits : phase.waits with
    | false => exact .inr ⟨_, there', waits⟩
    | true =>
      rw [waits_before step waits] at stopped
      cases stopped

end Steps

section Settled

def Manned (broker : Broker World Task) : Prop :=
  (∃ due, broker.dispatcher = .running due) ∨ broker.dispatcher = .ended

theorem Manned.step (manned : broker.Manned)
    (taken : broker.turn? service turn = some (after, events)) : after.Manned := by
  have step := dispatcher_step taken
  rw [Manned]
  generalize after.dispatcher = dispatcher at step
  cases step with
  | kept => exact manned
  | started | scheduled => exact .inl ⟨_, rfl⟩
  | stopped => exact .inr rfl
  | dropped idle =>
    rcases manned with ⟨due, running⟩ | ended
    · cases running.symm.trans idle
    · cases ended.symm.trans idle

theorem reads_of_settled (formed : broker.WellFormed) (manned : broker.Manned)
    (roomy : 0 < broker.config.actionQueueCapacity) (settled : broker.Settled service) {call : Call}
    (found : broker.calls[caller]? = some call) (pending : call.isPending = true) :
    broker.queue = [] ∧ ∃ kind id run, broker.Reads call kind id run := by
  have up := up_of_blocked formed found pending (settled (.call caller))
  have running : ∃ due, broker.dispatcher = .running due := by
    rcases manned with running | ended
    · exact running
    · rcases formed.ended ended with down | silent
      · rw [up] at down
        cases down
      · simp only [hasSenders, Bool.or_eq_false_iff, List.any_eq_false] at silent
        exact absurd pending (silent.2 call (List.mem_of_getElem? found))
  obtain ⟨due, running⟩ := running
  have idle := queue_of_blocked running up (settled .dispatcher)
  have room : broker.hasRoom = true := by simp [hasRoom, idle, roomy]
  exact ⟨idle, reads_of_blocked formed up (accepts_of_running running) idle room found pending
    (settled (.call caller))⟩

theorem Bound.not_pending (formed : broker.WellFormed) (manned : broker.Manned)
    (roomy : 0 < broker.config.actionQueueCapacity) (settled : broker.Settled service)
    (bound : broker.Bound caller id) {call : Call} (found : broker.calls[caller]? = some call) :
    call.isPending = false := by
  cases pending : call.isPending with
  | false => rfl
  | true =>
    obtain ⟨_, kind, transaction, run, reads⟩ :=
      reads_of_settled formed manned roomy settled found pending
    rcases bound with ⟨⟨holder, there, holds⟩, _, _, unread⟩ | ⟨stopper, there, stopped⟩
    · cases there.symm.trans found
      obtain ⟨_, _, asks⟩ := Call.pending_of_holds holds
      cases asks.symm.trans reads.request
      obtain ⟨run', begun, filled⟩ := unread
      cases begun.symm.trans reads.found
      exact absurd reads.empty filled
    · cases there.symm.trans found
      rw [reads.phase] at stopped
      cases stopped

end Settled

end Broker

end InstanceBroker
