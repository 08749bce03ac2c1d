import InstanceBroker.Proofs.Delivery

namespace InstanceBroker

variable {World Task : Type} {service : Service World Task}

theorem Call.pending_of_holds {call : Call} {id : TransactionId} (holds : call.holds id = true) :
    call.isPending = true ∧ ∃ kind, call.request = .collect kind id := by
  obtain ⟨request, phase⟩ := call
  cases request with
  | collect kind transaction =>
    cases phase with
    | told reply =>
      cases reply with
      | granted => exact ⟨rfl, kind, congrArg _ (eq_of_beq holds)⟩
      | opened | refused | listing => cases holds
    | reading | completing => exact ⟨rfl, kind, congrArg _ (eq_of_beq holds)⟩
    | submitting | awaiting | answered | abandoned => cases holds
  | initiate | cancel | listTransactions => cases holds

namespace Broker

variable {broker : Broker World Task}

theorem queue_of_blocked {due : Nat} (running : broker.dispatcher = .running due)
    (up : broker.shutdown = false) (blocked : broker.dispatch? service = none) :
    broker.queue = [] := by
  cases queue : broker.queue with
  | nil => rfl
  | cons action rest => simp [dispatch?, running, up, queue] at blocked

theorem settled_iff : broker.Settled service ↔ broker.next? service = none := by
  simp only [Settled, next?, List.findSome?_eq_none_iff]
  refine ⟨fun settled move _ => settled move, fun blocked move => ?_⟩
  cases move with
  | dispatcher => exact blocked _ (by simp [participants])
  | run id =>
    by_cases there : 0 < id ∧ id ≤ broker.runs.length
    · obtain ⟨positive, known⟩ := there
      refine blocked _ (List.mem_append_left _ (List.mem_cons_of_mem _ ?_))
      have before : id - 1 < broker.runs.length := Nat.sub_one_lt_of_le positive known
      refine List.mem_map.mpr ⟨id - 1, List.mem_range.mpr before, ?_⟩
      rw [Nat.sub_add_cancel positive]
    · have missing : broker.run? id = none := by
        rw [← Option.not_isSome_iff_eq_none, broker.run?_isSome_iff]
        exact there
      simp [fire?, advanceRun?, missing]
  | call caller =>
    by_cases there : caller < broker.calls.length
    · refine blocked _ (List.mem_append_right _ ?_)
      exact List.mem_map_of_mem (List.mem_range.mpr there)
    · have missing : broker.calls[caller]? = none := List.getElem?_eq_none (Nat.le_of_not_lt there)
      simp [fire?, advanceCall?, missing]

structure Reads (broker : Broker World Task) (call : Call) (kind : Operation.Kind)
    (id : TransactionId) (run : Run Task) : Prop where
  request : call.request = .collect kind id
  phase : call.phase = .reading
  found : broker.run? id = some run
  uncancelled : run.cancelled = false
  empty : run.buffer = []
  ongoing : run.hasEnded = false

theorem up_of_blocked (formed : broker.WellFormed) {caller : CallId} {call : Call}
    (found : broker.calls[caller]? = some call) (pending : call.isPending = true)
    (blocked : broker.advanceCall? caller = none) : broker.shutdown = false := by
  have sound := formed.sound caller call found
  cases down : broker.shutdown with
  | false => rfl
  | true =>
    obtain ⟨request, phase⟩ := call
    simp only [advanceCall?, found, Option.bind_eq_bind, Option.bind_some] at blocked
    cases phase with
    | submitting => simp [submit?, down] at blocked
    | awaiting | told => simp [down] at blocked
    | reading =>
      obtain ⟨kind, id, rfl, known⟩ := sound
      obtain ⟨run, there⟩ := Option.isSome_iff_exists.mp ((broker.run?_isSome_iff id).mpr known)
      simp [take?, there, down] at blocked
    | completing =>
      obtain ⟨kind, id, rfl, known⟩ := sound
      simp [complete?, down] at blocked
    | answered | abandoned => cases pending

theorem reads_of_blocked (formed : broker.WellFormed) (up : broker.shutdown = false)
    (accepts : broker.dispatcher.accepts = true) (idle : broker.queue = [])
    (room : broker.hasRoom = true) {caller : CallId} {call : Call}
    (found : broker.calls[caller]? = some call) (pending : call.isPending = true)
    (blocked : broker.advanceCall? caller = none) :
    ∃ kind id run, broker.Reads call kind id run := by
  have sound := formed.sound caller call found
  obtain ⟨request, phase⟩ := call
  simp only [advanceCall?, found, Option.bind_eq_bind, Option.bind_some] at blocked
  cases phase with
  | submitting =>
    simp only [submit?, up, accepts, room] at blocked
    cases request <;> cases blocked
  | awaiting =>
    have queued := formed.awaited caller _ found rfl
    rw [idle] at queued
    cases queued
  | told reply =>
    simp only [up] at blocked
    cases blocked
  | reading =>
    obtain ⟨kind, id, rfl, known⟩ := sound
    obtain ⟨run, there⟩ := Option.isSome_iff_exists.mp ((broker.run?_isSome_iff id).mpr known)
    simp only [take?, there, up, Option.bind_eq_bind, Option.bind_some, Bool.false_or] at blocked
    split at blocked
    · cases blocked
    · rename_i uncancelled
      split at blocked
      · cases blocked
      · rename_i empty
        split at blocked
        · cases blocked
        · rename_i ongoing
          exact ⟨kind, id, run, rfl, rfl, there, by simpa using uncancelled, empty,
            by simpa using ongoing⟩
  | completing outcome =>
    obtain ⟨kind, id, rfl, known⟩ := sound
    simp only [complete?, up, accepts, room] at blocked
    cases blocked
  | answered | abandoned => cases pending

theorem blocked_of_write? {id : TransactionId} {run : Run Task} {value : ResultValue}
    (blocked : broker.write? id run value = none) :
    broker.isOpen id = true ∧ broker.capacity ≤ run.buffer.length := by
  unfold write? at blocked
  split at blocked
  · cases blocked
  · rename_i wanted
    split at blocked
    · cases blocked
    · rename_i full
      simp only [Bool.or_eq_true, Bool.not_eq_true', not_or, Bool.not_eq_true,
        Bool.not_eq_false] at wanted
      exact ⟨by simp [isOpen, wanted], Nat.le_of_not_lt full⟩

/-- The service has nothing to do for the run until the clock or the world changes. -/
def Waits (service : Service World Task) (broker : Broker World Task) (id : TransactionId)
    (run : Run Task) : Prop :=
  ∃ task, run.phase = .working task ∧
    service.step (broker.context id) run.operation broker.world task = .wait

theorem waits_of_blocked {id : TransactionId} {run : Run Task}
    (found : broker.run? id = some run) (ongoing : run.hasEnded = false)
    (blocked : broker.advanceRun? service id = none) :
    Waits service broker id run ∨
      (∃ value, run.held = [value]) ∧ broker.isOpen id = true ∧
        broker.capacity ≤ run.buffer.length := by
  simp only [advanceRun?, found, Option.bind_eq_bind, Option.bind_some] at blocked
  split at blocked
  · rename_i task working
    split at blocked
    · rename_i waiting
      exact .inl ⟨task, working, waiting⟩
    · cases blocked
    · cases blocked
    · split at blocked <;> cases blocked
  · rename_i value task reporting
    cases full : broker.write? id run value with
    | none => exact .inr ⟨⟨value, by simp [Run.held, reporting]⟩, blocked_of_write? full⟩
    | some => rw [full] at blocked; cases blocked
  · rename_i value delivering
    cases full : broker.write? id run value with
    | none => exact .inr ⟨⟨value, by simp [Run.held, delivering]⟩, blocked_of_write? full⟩
    | some => rw [full] at blocked; cases blocked
  · rename_i ended
    simp [Run.hasEnded, ended] at ongoing

/-- Every participant that is not done waits for a value, for the service or for a reader. -/
structure Quiet (service : Service World Task) (broker : Broker World Task) : Prop where
  calls : ∀ (caller : CallId) (call : Call), broker.calls[caller]? = some call →
    call.isPending = true → ∃ kind id run, broker.Reads call kind id run
  runs : ∀ id run, broker.run? id = some run → run.hasEnded = false →
    Waits service broker id run ∨
      (∃ value, run.held = [value]) ∧ run.buffer.length = broker.config.resultBuffer ∧
        run.cancelled = false ∧ broker.table.isLive id = true ∧
        ∀ (caller : CallId) (call : Call), broker.calls[caller]? = some call →
          call.isPending = true → ∀ kind, call.request ≠ .collect kind id

end Broker

variable {config : Config} {origin : Timestamp} {world : World} {thrownAway : List TransactionId}
  {moments : List (Moment World Task)} {last : Broker World Task} {due : Nat}

/-- A broker with a running dispatcher settles with nobody waiting for anybody who could move: no
wake-up is lost and nothing is deadlocked. -/
theorem quiet_of_settled (valid : config.validate = .ok config)
    (trace : Trace service (.fresh config origin world thrownAway) moments last)
    (running : last.dispatcher = .running due) (up : last.shutdown = false)
    (settled : last.Settled service) : last.Quiet service := by
  have formed := trace.wellFormed
  have config_eq : last.config = config := trace.config_eq
  have idle : last.queue = [] := Broker.queue_of_blocked running up (settled .dispatcher)
  have accepts := Broker.accepts_of_running running
  obtain ⟨roomy, buffered⟩ := Config.usable_of_validate valid
  have room : last.hasRoom = true := by simp [Broker.hasRoom, idle, config_eq, roomy]
  have capacity : last.capacity = config.resultBuffer := by
    rw [Broker.capacity, config_eq]
    exact Nat.max_eq_left buffered
  have reads (caller : CallId) (call : Call) (found : last.calls[caller]? = some call)
      (pending : call.isPending = true) : ∃ kind id run, last.Reads call kind id run :=
    Broker.reads_of_blocked formed up accepts idle room found pending (settled (.call caller))
  refine ⟨reads, fun id run found ongoing => ?_⟩
  rcases Broker.waits_of_blocked found ongoing (settled (.run id)) with
    waits | ⟨held, isOpen, full⟩
  · exact .inl waits
  · right
    have bounded : run.buffer.length ≤ last.capacity := by
      have bounded := (trace.conservation id).2
      simpa [Broker.buffered, found] using bounded
    have length : run.buffer.length = config.resultBuffer :=
      capacity ▸ Nat.le_antisymm bounded full
    -- A reader would find the values of a full buffer and take one.
    have unread (caller : CallId) (call : Call) (there : last.calls[caller]? = some call)
        (pending : call.isPending = true) (kind : Operation.Kind) :
        call.request ≠ .collect kind id := by
      intro asked
      obtain ⟨kind', id', run', reading⟩ := reads caller call there pending
      cases asked.symm.trans reading.request
      cases found.symm.trans reading.found
      rw [reading.empty] at length
      exact absurd length (Nat.ne_of_lt buffered)
    simp only [Broker.isOpen, Broker.isCancelled, found, Option.any_some, up, Bool.false_or,
      Bool.and_eq_true, Bool.not_eq_true'] at isOpen
    refine ⟨held, config_eq ▸ length, isOpen.1, ?_, unread⟩
    rcases Bool.or_eq_true _ _ |>.mp isOpen.2 with live | holder
    · exact live
    · obtain ⟨call, among, holds⟩ := List.any_eq_true.mp holder
      obtain ⟨caller, there⟩ := List.mem_iff_getElem?.mp among
      obtain ⟨pending, kind, asked⟩ := Call.pending_of_holds holds
      exact absurd asked (unread caller call there pending kind)

def patience : List (Turn Catalogue) :=
  [.input .startDispatcher, .input (.request (.initiate .listInstances)), .move (.call 0),
    .move .dispatcher, .move (.run 1), .move (.call 0),
    .input (.request (.collect .listInstances 1)), .move (.call 1), .move .dispatcher,
    .move (.call 1)]

theorem quiet_patience : ∃ moments last due,
    (Broker.fresh {} ⟨0, 0⟩ {} []).follow?
      (Simulated.Plan.service { operationDelay := ⟨5⟩ })
      patience = some (moments, last) ∧
    Config.validate {} = .ok {} ∧ last.dispatcher = .running due ∧ last.shutdown = false ∧
    last.Settled (Simulated.Plan.service { operationDelay := ⟨5⟩ }) ∧
    last.calls[1]? = some { request := .collect .listInstances 1, phase := .reading } ∧
    last.Quiet (Simulated.Plan.service { operationDelay := ⟨5⟩ }) := by
  have runs : ∃ moments last due,
      (Broker.fresh {} ⟨0, 0⟩ {} []).follow?
        (Simulated.Plan.service { operationDelay := ⟨5⟩ })
        patience = some (moments, last) ∧
      last.dispatcher = .running due ∧ last.shutdown = false ∧
      last.next? (Simulated.Plan.service { operationDelay := ⟨5⟩ }) = none ∧
      last.calls[1]? = some { request := .collect .listInstances 1, phase := .reading } :=
    ⟨_, _, _, rfl, rfl, rfl, rfl, rfl⟩
  obtain ⟨moments, last, due, followed, running, up, blocked, reading⟩ := runs
  have settled := Broker.settled_iff.mpr blocked
  have valid : Config.validate {} = .ok {} := rfl
  have trace := Trace.of_follow? followed
  exact ⟨moments, last, due, followed, valid, running, up, settled, reading,
    quiet_of_settled valid trace running up settled⟩

end InstanceBroker
