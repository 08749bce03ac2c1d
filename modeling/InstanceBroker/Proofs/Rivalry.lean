import InstanceBroker.Proofs.Causes
import InstanceBroker.Proofs.Seal
import InstanceBroker.Service.Scripted

namespace InstanceBroker

variable {World Task : Type} {service : Service World Task}

/-- The dispatcher cancels the transaction at this moment, and not because it ends. -/
def Moment.Withdraws (id : TransactionId) (moment : Moment World Task) : Prop :=
  (∃ action, .handled action ∈ moment.events ∧ moment.broker.Dooms id action) ∨
    .swept id ∈ moment.events

theorem Moment.Withdraws.strikes {id : TransactionId} {moment : Moment World Task}
    (withdraws : moment.Withdraws id) : moment.Strikes id := by
  rcases withdraws with ⟨action, handled, dooms⟩ | swept
  · exact .handled handled dooms
  · exact .swept swept

def Outrun (caller : CallId) (id : TransactionId) (events : List Event) : Prop :=
  ∃ other value, other ≠ caller ∧ .took other id value ∈ events ∧ value.isTerminal = true

theorem Operation.Kind.judge_ne_cancelled (kind : Operation.Kind) (id : TransactionId)
    (value : ResultValue) : (kind.judge id value).outcome ≠ .error .cancelled := by
  cases value with
  | progress result => by_cases create : kind = .create <;> simp [judge, create]
  | final payload => cases read : kind.answer? payload <;> simp [judge, read]
  | failed error => simp [judge]

namespace Broker

variable {broker after : Broker World Task} {turn : Turn World} {events : List Event}
  {id : TransactionId} {caller : CallId} {kind : Operation.Kind}

theorem ended_of_stopped (taken : broker.turn? service turn = some (after, events))
    (stopped : (∃ ids, .stopped ids ∈ events) ∨ broker.dispatcher = .ended) :
    after.dispatcher = .ended := by
  rcases stopped with ⟨ids, among⟩ | ended
  · cases turns_of_turn? taken with
    | dispatched running dispatches =>
      cases dispatches with
      | stopped => rw [stop_frame]
      | handled up head handles => cases handles <;> simp at among
      | swept => simp at among
    | advanced _ advances => cases advances <;> simp at among
    | progressed _ progresses => cases progresses <;> simp at among
    | received | changed => cases among
  · have step := dispatcher_step taken
    generalize after.dispatcher = next at step
    cases step with
    | kept => exact ended
    | started idle | dropped idle =>
      rw [ended] at idle
      cases idle
    | stopped => rfl
    | scheduled running =>
      rw [ended] at running
      cases running

theorem signalled_of_refused (formed : broker.WellFormed)
    (taken : broker.turn? service turn = some (after, events))
    (before : broker.calls[caller]? =
        some { request := .collect kind id, phase := .told (.refused .cancelled) } →
      broker.isSignalled id = true)
    (found : after.calls[caller]? =
      some { request := .collect kind id, phase := .told (.refused .cancelled) }) :
    after.isSignalled id = true := by
  rw [signalled_step formed taken]
  left
  rcases call_origin taken found with ⟨⟨request, phase⟩, there, same, step⟩ | new
  · cases same
    generalize reached : Call.Phase.told (.refused .cancelled) = next at step
    cases step with
    | kept =>
      subst reached
      exact before there
    | @told action queue later reply waits up head asks replies =>
      cases reached
      obtain ⟨asking, known, rfl, _⟩ := formed.asked _ (head ▸ List.mem_cons_self) caller asks
      cases known.symm.trans there
      rcases broker.reply?_getResult id caller with
        ⟨_, refused⟩ | ⟨slot, live, ⟨cancelled, _⟩ | ⟨_, granted⟩⟩
      · cases refused.symm.trans replies
      · obtain ⟨run, begun, signalled⟩ := formed.cancelled id slot live cancelled
        rw [isSignalled, begun]
        exact signalled
      · cases granted.symm.trans replies
    | progressed progresses => cases progresses <;> cases reached
    | abandoned => cases reached
  · cases new.2.2.1

theorem Progresses.cancelled_cases {phase next : Call.Phase}
    {actions : List Action} {reads : Option (TransactionId × List ResultValue)}
    (progresses : Progresses broker caller { request := .collect kind id, phase } next actions reads
      events)
    (answered : .answered caller (.error .cancelled) ∈ events) (up : broker.shutdown = false) :
    phase = .told (.refused .cancelled) ∨ phase = .completing (.error .cancelled) ∨
      phase = .reading ∧ ∃ run, broker.run? id = some run ∧
        (run.cancelled = true ∨ run.buffer = [] ∧ run.hasEnded = true) := by
  cases progresses with
  | preempted down =>
    rw [up] at down
    cases down
  | closed => simp at answered
  | queued | opened => simp at answered
  | @learned _ reply outcome _ known =>
    cases List.mem_singleton.mp answered
    cases reply with
    | refused fault =>
      cases known
      exact .inl rfl
    | granted | opened | listing => cases known
  | stranded found closed =>
    rw [up] at closed
    exact .inr (.inr ⟨rfl, _, found, closed.resolve_left Bool.false_ne_true⟩)
  | @tookProgress _ _ run value =>
    have equal : .error .cancelled = (kind.judge id value).outcome := by simpa using answered
    exact absurd equal.symm (kind.judge_ne_cancelled id value)
  | tookLast => simp at answered
  | @unreleased _ _ outcome | @released _ _ outcome =>
    have equal : .error .cancelled = outcome := by simpa using answered
    exact .inr (.inl (equal ▸ rfl))

theorem turn?_spent (service : Service World Task) (up : broker.shutdown = false)
    (found : broker.calls[caller]? = some { request := .collect kind id, phase := .reading })
    (spent : broker.Spent id) :
    ∃ after, broker.turn? service (.move (.call caller)) =
      some (after, [.answered caller (.error .cancelled)]) := by
  obtain ⟨run, there, ended, empty⟩ := spent
  have closed : run.hasEnded = true := by rw [Run.hasEnded, ended]
  simp only [turn?, fire?, advanceCall?, found, Option.bind_eq_bind, Option.bind_some, take?, there,
    up, empty, closed]
  cases run.cancelled <;> exact ⟨_, rfl⟩

theorem told_of_missing (taken : broker.turn? service (.move .dispatcher) =
      some (after, .handled (.getResult id caller) :: events))
    (found : broker.calls[caller]? = some { request := .collect kind id, phase := .awaiting })
    (missing : broker.table.find? id = none) :
    after.calls[caller]? =
      some { request := .collect kind id, phase := .told (.refused (.unknownTransaction id)) } := by
  obtain ⟨phase, there, step⟩ := call_step taken found
  generalize made : Event.handled (.getResult id caller) :: events = all at step
  cases step with
  | kept _ _ apart =>
    have own : Event.handled (.getResult id caller) ∈ all := made ▸ List.mem_cons_self
    exact absurd rfl (apart rfl _ own)
  | told _ _ _ _ replies =>
    cases made
    rcases broker.reply?_getResult id caller with ⟨_, refused⟩ | ⟨slot, live, _⟩
    · cases refused.symm.trans replies
      exact there
    · cases missing.symm.trans live

end Broker

namespace Trace

variable {start last : Broker World Task} {moments : List (Moment World Task)}
  {caller : CallId} {id : TransactionId}

theorem ended_of_stopped (trace : Trace service start moments last) {ids : List TransactionId}
    (stopped : .stopped ids ∈ history moments) : last.dispatcher = .ended := by
  induction trace with
  | nil => cases stopped
  | snoc earlier taken ih =>
    rw [history_append, history_singleton] at stopped
    apply Broker.ended_of_stopped taken
    exact (List.mem_append.mp stopped).symm.imp (fun now => ⟨_, now⟩) ih

variable {config : Config} {origin : Timestamp} {world : World} {thrownAway : List TransactionId}

theorem signalled_of_refused
    (trace : Trace service (.fresh config origin world thrownAway) moments last)
    {kind : Operation.Kind} (found : last.calls[caller]? =
      some { request := .collect kind id, phase := .told (.refused .cancelled) }) :
    last.isSignalled id = true := by
  induction trace with
  | nil => cases found
  | snoc earlier taken ih => exact Broker.signalled_of_refused earlier.wellFormed taken ih found

/-- The dispatcher does not end as long as a call is pending, so it had another reason. -/
theorem withdrawn_of_signalled
    (trace : Trace service (.fresh config origin world thrownAway) moments last)
    (up : last.shutdown = false) {call : Call} (found : last.calls[caller]? = some call)
    (pending : call.isPending = true) (signalled : last.isSignalled id = true) :
    ∃ moment ∈ moments, moment.Withdraws id := by
  obtain ⟨moment, among, strikes⟩ := (trace.struck_iff id).mp signalled
  refine ⟨moment, among, ?_⟩
  cases strikes with
  | handled handled dooms => exact .inl ⟨_, handled, dooms⟩
  | swept swept => exact .inr swept
  | @stopped ids _ stopped =>
    have ended := trace.ended_of_stopped (List.mem_flatMap.mpr ⟨moment, among, stopped⟩)
    rcases trace.wellFormed.ended ended with down | silent
    · rw [up] at down
      cases down
    · simp only [Broker.hasSenders, Bool.or_eq_false_iff, List.any_eq_false] at silent
      exact absurd pending (silent.2 call (List.mem_of_getElem? found))

theorem outrun_of_exhausted
    (trace : Trace service (.fresh config origin world thrownAway) moments last)
    (carried : id ∉ thrownAway) (up : last.shutdown = false) {kind : Operation.Kind}
    (found : last.calls[caller]? = some { request := .collect kind id, phase := .reading })
    {run : Run Task} (begun : last.run? id = some run) (uncancelled : run.cancelled = false)
    (empty : run.buffer = []) (ended : run.hasEnded = true) :
    Outrun caller id (history moments) := by
  have reading : last.calls.any (·.holds id) = true :=
    List.any_eq_true.mpr ⟨_, List.mem_of_getElem? found, BEq.rfl⟩
  have isOpen : last.isOpen id = true := by
    simp [Broker.isOpen, Broker.isCancelled, Broker.isWanted, up, begun, uncancelled, reading]
  obtain ⟨other, value, took, terminal⟩ :=
    trace.took_of_exhausted carried isOpen begun (Run.phase_of_hasEnded ended) empty
  refine ⟨other, value, ?_, took, terminal⟩
  -- It was not this call, which has taken nothing as long as it reads.
  rintro rfl
  have nothing : takenBy other (history moments) = [] := (trace.account other).2 _ found
  have mine := mem_takenBy.mpr took
  rw [nothing] at mine
  cases mine

theorem excused (trace : Trace service (.fresh config origin world thrownAway) moments last)
    (carried : id ∉ thrownAway) {kind : Operation.Kind} {phase : Call.Phase} {turn : Turn World}
    {after : Broker World Task} {events : List Event}
    (found : last.calls[caller]? = some { request := .collect kind id, phase })
    (taken : last.turn? service turn = some (after, events))
    (answered : .answered caller (.error .cancelled) ∈ events) (up : after.shutdown = false) :
    (∃ moment ∈ moments, moment.Withdraws id) ∨
      phase = .reading ∧ Outrun caller id (history moments) := by
  have up : last.shutdown = false := (Trace.single taken).up up
  obtain ⟨next, _, step⟩ := Broker.call_step taken found
  cases step with
  | kept _ quiet => exact absurd rfl (quiet _ answered)
  | told _ _ _ _ _ quiet => exact absurd rfl (quiet _ answered)
  | abandoned => cases answered
  | progressed progresses =>
    have withdrawn (signalled : last.isSignalled id = true) :
        ∃ moment ∈ moments, moment.Withdraws id :=
      trace.withdrawn_of_signalled up found progresses.pending signalled
    rcases progresses.cancelled_cases answered up with rfl | rfl | ⟨rfl, run, begun, cause⟩
    · exact .inl (withdrawn (trace.signalled_of_refused found))
    · obtain ⟨value, _, outcome⟩ := (trace.account caller).2 _ found
      exact absurd outcome.symm (kind.judge_ne_cancelled id value)
    · cases cancelled : run.cancelled with
      | true =>
        have signalled : last.isSignalled id = true := by
          rw [Broker.isSignalled, begun]
          exact cancelled
        exact .inl (withdrawn signalled)
      | false =>
        rw [cancelled] at cause
        obtain ⟨empty, ended⟩ := cause.resolve_left Bool.false_ne_true
        exact .inr ⟨rfl, trace.outrun_of_exhausted carried up found begun cancelled empty ended⟩

end Trace

structure Rivals (service : Service World Task) (moments : List (Moment World Task))
    (last : Broker World Task) (id : TransactionId) : Prop where
  excused : ∀ caller kind phase turn after events,
    last.calls[caller]? = some { request := .collect kind id, phase } →
    last.turn? service turn = some (after, events) →
    .answered caller (.error .cancelled) ∈ events → after.shutdown = false →
    (∃ moment ∈ moments, moment.Withdraws id) ∨
      phase = .reading ∧ Outrun caller id (history moments)
  /-- Without a withdrawal whoever reads fails as cancelled once it is outrun. -/
  outrun : ∀ caller kind,
    last.calls[caller]? = some { request := .collect kind id, phase := .reading } →
    last.shutdown = false → (¬ ∃ moment ∈ moments, moment.Withdraws id) →
    (Outrun caller id (history moments) ↔
      ∃ after, last.turn? service (.move (.call caller)) =
        some (after, [.answered caller (.error .cancelled)]))
  unknown : ∀ caller kind after events,
    last.calls[caller]? = some { request := .collect kind id, phase := .awaiting } →
    last.table.find? id = none →
    last.turn? service (.move .dispatcher) =
      some (after, .handled (.getResult id caller) :: events) →
    after.calls[caller]? =
      some { request := .collect kind id, phase := .told (.refused (.unknownTransaction id)) }

theorem rivals_of_trace {config : Config} {origin : Timestamp} {world : World}
    {thrownAway : List TransactionId} {moments : List (Moment World Task)}
    {last : Broker World Task} {id : TransactionId}
    (trace : Trace service (.fresh config origin world thrownAway) moments last)
    (carried : id ∉ thrownAway) : Rivals service moments last id where
  excused caller kind phase turn after events found taken answered up :=
    trace.excused carried found taken answered up
  outrun := by
    intro caller kind found up stays
    constructor
    · rintro ⟨_, value, _, took, terminal⟩
      exact Broker.turn?_spent service up found (trace.spent_of_took took terminal)
    · rintro ⟨after, taken⟩
      have still : after.shutdown = false := (Broker.shutdown_kept taken (by simp)).trans up
      rcases trace.excused carried found taken List.mem_cons_self still with
        withdrawn | ⟨_, outrun⟩
      · exact absurd withdrawn stays
      · exact outrun
  unknown caller kind after events found missing taken :=
    Broker.told_of_missing taken found missing

def gated : Scripted.Script where
  acts := [.gate "g"]

def racing : List (Turn Scripted.World) :=
  [.input .startDispatcher, .input (.request (.initiate .listInstances)), .move (.call 0),
    .move .dispatcher, .move (.run 1), .move (.call 0),
    .input (.request (.collect .listInstances 1)), .move (.call 1), .move .dispatcher,
    .move (.call 1), .input (.request (.collect .listInstances 1)), .move (.call 2),
    .move .dispatcher, .move (.call 2), .world { openGates := ["g"] }, .move (.run 1),
    .move (.run 1), .move (.run 1), .move (.call 1), .move (.call 1), .move .dispatcher]

theorem rivals_racing : ∃ moments last after,
    (Broker.fresh {} ⟨0, 0⟩ {} []).follow? (Scripted.Scripts.service [(1, gated)]) racing =
      some (moments, last) ∧
    1 ∉ ([] : List TransactionId) ∧
    last.turn? (Scripted.Scripts.service [(1, gated)]) (.move (.call 2)) =
      some (after, [.answered 2 (.error .cancelled)]) ∧
    takes 1 (history moments) = [(1, .final (.instances []))] ∧
    Rivals (Scripted.Scripts.service [(1, gated)]) moments last 1 := by
  have runs : ∃ moments last after,
      (Broker.fresh {} ⟨0, 0⟩ {} []).follow? (Scripted.Scripts.service [(1, gated)]) racing =
        some (moments, last) ∧
      last.turn? (Scripted.Scripts.service [(1, gated)]) (.move (.call 2)) =
        some (after, [.answered 2 (.error .cancelled)]) ∧
      takes 1 (history moments) = [(1, .final (.instances []))] := ⟨_, _, _, rfl, rfl, rfl⟩
  obtain ⟨moments, last, after, followed, fails, took⟩ := runs
  have carried : 1 ∉ ([] : List TransactionId) := by simp
  exact ⟨moments, last, after, followed, carried, fails, took,
    rivals_of_trace (.of_follow? followed) carried⟩

/-- The slower of the two calls fails as cancelled, and nothing was cancelled. -/
theorem not_withdrawn_racing : ∃ moments last,
    Trace (Scripted.Scripts.service [(1, gated)]) (.fresh {} ⟨0, 0⟩ {} []) moments last ∧
    last.shutdown = false ∧
    last.calls[2]? = some
      { request := .collect .listInstances 1, phase := .answered (.error .cancelled) } ∧
    ¬ ∃ moment ∈ moments, moment.Withdraws 1 := by
  have runs : ∃ moments last,
      (Broker.fresh {} ⟨0, 0⟩ {} []).follow? (Scripted.Scripts.service [(1, gated)])
        (racing ++ [.move (.call 2)]) = some (moments, last) ∧
      last.shutdown = false ∧
      last.calls[2]? = some
        { request := .collect .listInstances 1, phase := .answered (.error .cancelled) } ∧
      last.isSignalled 1 = false := ⟨_, _, rfl, rfl, rfl, rfl⟩
  obtain ⟨moments, last, followed, up, failed, unsignalled⟩ := runs
  have trace := Trace.of_follow? followed
  refine ⟨moments, last, trace, up, failed, ?_⟩
  rintro ⟨moment, among, withdraws⟩
  have signalled : last.isSignalled 1 = true :=
    (trace.struck_iff 1).mpr ⟨moment, among, withdraws.strikes⟩
  rw [unsignalled] at signalled
  cases signalled

end InstanceBroker
