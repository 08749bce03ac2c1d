import InstanceBroker.Proofs.Step.Call
import InstanceBroker.Proofs.Step.Queue
import InstanceBroker.Proofs.Step.Slot

namespace InstanceBroker

variable {World Task : Type}

/-- The phase of a call suits its request, when `count` transactions were opened. -/
def Call.Sound (count : Nat) (call : Call) : Prop :=
  match call.phase with
  | .awaiting => ∀ transaction, call.request ≠ .cancel transaction
  | .told (.opened _) => ∃ operation, call.request = .initiate operation
  | .told (.refused fault) => ∃ kind id, call.request = .collect kind id ∧
      (fault = .cancelled ∨ fault = .unknownTransaction id)
  | .told (.listing _) => call.request = .listTransactions
  | .told .granted | .reading | .completing _ =>
      ∃ kind id, call.request = .collect kind id ∧ 0 < id ∧ id ≤ count
  | .submitting | .answered _ | .abandoned => True

def Call.Unheard (call : Call) : Prop :=
  call.phase = .awaiting ∨ call.phase = .answered (.error .cancelled) ∨ call.phase = .abandoned

theorem Call.Sound.mono {call : Call} {count more : Nat} (sound : call.Sound count)
    (grown : count ≤ more) : call.Sound more := by
  obtain ⟨request, phase⟩ := call
  have readable (bound : ∃ kind id, request = .collect kind id ∧ 0 < id ∧ id ≤ count) :
      ∃ kind id, request = .collect kind id ∧ 0 < id ∧ id ≤ more := by
    obtain ⟨kind, id, asked, positive, known⟩ := bound
    exact ⟨kind, id, asked, positive, Nat.le_trans known grown⟩
  cases phase with
  | told reply =>
    cases reply with
    | granted => exact readable sound
    | opened | refused | listing => exact sound
  | reading | completing => exact readable sound
  | submitting | awaiting | answered | abandoned => exact sound

theorem Request.caller?_action {request : Request} (caller : CallId)
    (replied : ∀ transaction, request ≠ .cancel transaction) :
    (request.action caller).caller? = some caller := by
  cases request with
  | cancel transaction => exact absurd rfl (replied transaction)
  | initiate | collect | listTransactions => rfl

namespace Broker

structure WellFormed (broker : Broker World Task) : Prop where
  numbered : broker.table.nextId = broker.runs.length + 1
  known : ∀ id ∈ broker.table.ids, 0 < id ∧ id ≤ broker.runs.length
  asked : ∀ action ∈ broker.queue, ∀ caller, action.caller? = some caller →
    ∃ call, broker.calls[caller]? = some call ∧ call.request.action caller = action ∧
      call.Unheard
  single : (broker.queue.filterMap Action.caller?).Nodup
  awaited : ∀ (id : CallId) (call : Call), broker.calls[id]? = some call →
    call.phase = .awaiting →
    call.request.action id ∈ broker.queue
  sound : ∀ (id : CallId) (call : Call), broker.calls[id]? = some call →
    call.Sound broker.runs.length
  ended : broker.dispatcher = .ended → broker.shutdown = true ∨ broker.hasSenders = false
  unopened : broker.dispatcher = .idle ∨ broker.dispatcher = .dropped → broker.runs = []
  cancelled : ∀ id slot, broker.table.find? id = some slot → slot.state = .cancelled →
    ∃ run, broker.run? id = some run ∧ run.cancelled = true

theorem WellFormed.fresh (config : Config) (origin : Timestamp) (world : World)
    (thrownAway : List TransactionId) :
    (fresh config origin world thrownAway : Broker World Task).WellFormed where
  numbered := rfl
  known id live := by cases live
  asked action queued := by cases queued
  single := .nil
  awaited id call found := by cases found
  sound id call found := by cases found
  ended closed := by cases closed
  unopened _ := rfl
  cancelled id slot found := by cases found

variable {service : Service World Task} {broker after : Broker World Task} {turn : Turn World}
  {events : List Event}

theorem runs_grow (taken : broker.turn? service turn = some (after, events)) :
    broker.runs.length ≤ after.runs.length := by
  rcases table_step taken with ⟨_, same, _⟩ | ⟨_, grown, _⟩
  · exact Nat.le_of_eq same.symm
  · rw [grown]
    exact Nat.le_succ _

theorem RunStep.cancelled {id : TransactionId} {run next : Run Task}
    (step : RunStep service broker id run turn events next) (cancelled : run.cancelled = true) :
    next.cancelled = true := by
  cases step with
  | kept => exact cancelled
  | advanced advances => cases advances <;> exact cancelled
  | read => exact cancelled
  | signalled => rfl

theorem isCancelled_step {id : TransactionId}
    (taken : broker.turn? service turn = some (after, events))
    (uncancelled : after.isCancelled id = false) : broker.isCancelled id = false := by
  obtain ⟨_, _, _, down, _⟩ := settings_step taken
  simp only [isCancelled, Bool.or_eq_false_iff] at uncancelled ⊢
  constructor
  · cases shutdown : broker.shutdown with
    | false => rfl
    | true => exact (down shutdown).symm.trans uncancelled.1
  · cases found : broker.run? id with
    | none => rfl
    | some run =>
      obtain ⟨next, there, step⟩ := run_step taken found
      cases cancelled : run.cancelled with
      | false => exact cancelled
      | true =>
        rw [there] at uncancelled
        exact absurd (step.cancelled cancelled) (Bool.eq_false_iff.mp uncancelled.2)

namespace WellFormed

theorem run?_isSome (formed : broker.WellFormed) {id : TransactionId}
    (live : broker.table.isLive id = true) : ∃ run, broker.run? id = some run := by
  have bound := formed.known id ((Table.isLive_iff ..).mp live)
  exact Option.isSome_iff_exists.mp ((broker.run?_isSome_iff id).mpr bound)

theorem begun_of_holds (formed : broker.WellFormed) {id : TransactionId} {caller : CallId}
    {call : Call} (found : broker.calls[caller]? = some call) (holds : call.holds id = true) :
    ∃ run, broker.run? id = some run := by
  have sound := formed.sound caller call found
  obtain ⟨request, phase⟩ := call
  have readable
      (bound : ∃ kind id, request = .collect kind id ∧ 0 < id ∧ id ≤ broker.runs.length)
      {kind : Operation.Kind} {transaction : TransactionId}
      (asked : request = .collect kind transaction) (same : (transaction == id) = true) :
      ∃ run, broker.run? id = some run := by
    obtain ⟨_, _, asked', known⟩ := bound
    cases asked.symm.trans asked'
    cases eq_of_beq same
    exact Option.isSome_iff_exists.mp ((broker.run?_isSome_iff id).mpr known)
  cases request with
  | collect kind transaction =>
    cases phase with
    | told reply =>
      cases reply with
      | granted => exact readable sound rfl holds
      | opened | refused | listing => cases holds
    | reading | completing => exact readable sound rfl holds
    | submitting | awaiting | answered | abandoned => cases holds
  | initiate | cancel | listTransactions => cases holds

theorem old_of_find? (formed : broker.WellFormed) {id : TransactionId} {slot : Slot}
    (found : broker.table.find? id = some slot) : id ≠ broker.table.nextId := by
  have live := (Table.isLive_iff ..).mp (Table.isLive_of_find? found)
  rw [formed.numbered]
  exact Nat.ne_of_lt (Nat.lt_succ_of_le (formed.known id live).2)

theorem known_step (formed : broker.WellFormed)
    (taken : broker.turn? service turn = some (after, events)) :
    ∀ id ∈ after.table.ids, 0 < id ∧ id ≤ after.runs.length := by
  intro id live
  rcases table_step taken with ⟨_, same, fewer⟩ | ⟨_, grown, fewer, _⟩
  · rw [same]
    exact formed.known id (fewer.subset live)
  · rw [grown]
    rcases List.mem_append.mp (fewer.subset live) with old | new
    · have bound := formed.known id old
      exact ⟨bound.1, Nat.le_succ_of_le bound.2⟩
    · rw [List.mem_singleton.mp new, formed.numbered]
      exact ⟨Nat.succ_pos _, Nat.le_refl _⟩

theorem unheard_step (formed : broker.WellFormed)
    (taken : broker.turn? service turn = some (after, events)) {action : Action} {caller : CallId}
    {call : Call} {phase : Call.Phase} (stays : action ∈ broker.queue ∧ action ∈ after.queue)
    (asks : action.caller? = some caller) (unheard : call.Unheard)
    (step : CallStep broker after caller call turn events phase) :
    ({ call with phase } : Call).Unheard := by
  cases step with
  | kept => exact unheard
  | @told handled _ _ _ _ _ head asks' =>
    have single := formed.single
    cases queue_step taken with
    | kept _ unhandled => exact absurd List.mem_cons_self (unhandled handled)
    | handled _ head =>
      rw [head, List.filterMap_cons_some asks'] at single
      have among : caller ∈ after.queue.filterMap Action.caller? :=
        List.mem_filterMap.mpr ⟨action, stays.2, asks⟩
      exact absurd among (List.nodup_cons.mp single).1
  | progressed progresses =>
    obtain ⟨request, old⟩ := call
    rcases unheard with rfl | rfl | rfl
    · cases progresses with
      | preempted => exact .inr (.inl rfl)
    · cases progresses.pending
    · cases progresses.pending
  | abandoned => exact .inr (.inr rfl)

theorem asked_step (formed : broker.WellFormed)
    (taken : broker.turn? service turn = some (after, events)) :
    ∀ action ∈ after.queue, ∀ caller, action.caller? = some caller →
      ∃ call, after.calls[caller]? = some call ∧ call.request.action caller = action ∧
        call.Unheard := by
  intro action among caller asks
  have old (queued : action ∈ broker.queue) :
      ∃ call, after.calls[caller]? = some call ∧ call.request.action caller = action ∧
        call.Unheard := by
    obtain ⟨call, before, same, unheard⟩ := formed.asked action queued caller asks
    obtain ⟨phase, there, step⟩ := call_step taken before
    exact ⟨_, there, same, formed.unheard_step taken ⟨queued, among⟩ asks unheard step⟩
  cases queue_step taken with
  | kept same => exact old (same ▸ among)
  | handled up head => exact old (head ▸ List.mem_cons_of_mem _ among)
  | @queued asker _ _ _ _ _ asks' progresses result =>
    rw [result, queue_moved] at among
    rcases List.mem_append.mp among with before | new
    · exact old before
    · cases progresses with
      | @queued request up accepts room replied =>
        cases List.mem_singleton.mp new
        have own := Request.caller?_action asker replied
        rw [asks] at own
        cases own
        have there : after.calls[caller]? = some { request, phase := .awaiting } := by
          rw [result, (moved_frame ..).2.2, calls_setPhase, if_pos rfl, asks']
          rfl
        exact ⟨_, there, rfl, .inl rfl⟩
      | cancelQueued | released =>
        cases List.mem_singleton.mp new
        cases asks
      | _ => cases new

theorem single_step (formed : broker.WellFormed)
    (taken : broker.turn? service turn = some (after, events)) :
    (after.queue.filterMap Action.caller?).Nodup := by
  have single := formed.single
  cases queue_step taken with
  | kept same => rwa [same]
  | handled up head =>
    rw [head] at single
    exact single.sublist ((List.sublist_cons_self ..).filterMap _)
  | @queued asker _ _ _ _ _ asks progresses result =>
    rw [result, queue_moved, List.filterMap_append]
    cases progresses with
    | queued up accepts room replied =>
      rw [List.filterMap_cons_some (Request.caller?_action asker replied), List.filterMap_nil]
      refine List.nodup_append.mpr ⟨single, by simp, ?_⟩
      rintro _ among _ new rfl
      cases List.mem_singleton.mp new
      obtain ⟨action, queued, asks'⟩ := List.mem_filterMap.mp among
      obtain ⟨call, there, _, unheard⟩ := formed.asked action queued asker asks'
      have same := Option.some.inj (there.symm.trans asks)
      subst same
      rcases unheard with equal | equal | equal <;> cases equal
    | cancelQueued | released =>
      rw [List.filterMap_cons_none rfl, List.filterMap_nil, List.append_nil]
      exact single
    | _ =>
      rw [List.filterMap_nil, List.append_nil]
      exact single

theorem awaited_step (formed : broker.WellFormed)
    (taken : broker.turn? service turn = some (after, events)) :
    ∀ (id : CallId) (call : Call), after.calls[id]? = some call → call.phase = .awaiting →
      call.request.action id ∈ after.queue := by
  intro id next found waits
  rcases call_origin taken found with ⟨call, before, same, step⟩ | ⟨_, _, submitting, _, _⟩
  · rw [← same]
    generalize next.phase = phase at step waits
    cases step with
    | kept other quiet apart =>
      have queued := formed.awaited id call before waits
      have replied : ∀ transaction, call.request ≠ .cancel transaction := by
        have sound := formed.sound id call before
        rw [Call.Sound, waits] at sound
        exact sound
      cases queue_step taken with
      | kept unchanged => exact unchanged ▸ queued
      | @handled action _ up head =>
        rw [head] at queued
        rcases List.mem_cons.mp queued with equal | later
        · have own := Request.caller?_action id replied
          rw [equal] at own
          exact absurd own (apart waits action List.mem_cons_self)
        · exact later
      | queued _ _ result =>
        rw [result, queue_moved]
        exact List.mem_append_left _ queued
    | told => cases waits
    | progressed progresses result =>
      cases progresses with
      | queued =>
        rw [result, queue_moved]
        exact List.mem_append_right _ (List.mem_singleton.mpr rfl)
      | _ => cases waits
    | abandoned => cases waits
  · rw [submitting] at waits
    cases waits

theorem sound_reply (formed : broker.WellFormed) {id : CallId} {call : Call} {action : Action}
    {queue : List Action} {reply : DispatcherReply} (before : broker.calls[id]? = some call)
    (head : broker.queue = action :: queue) (asks : action.caller? = some id)
    (replies : broker.reply? action = some reply) :
    ({ call with phase := .told reply } : Call).Sound broker.runs.length := by
  obtain ⟨asking, there, same, _⟩ := formed.asked action (head ▸ List.mem_cons_self) id asks
  have equal : asking = call := Option.some.inj (there.symm.trans before)
  subst equal
  obtain ⟨request, phase⟩ := asking
  cases request with
  | initiate operation =>
    cases same
    cases replies
    exact ⟨operation, rfl⟩
  | collect kind transaction =>
    cases same
    rcases broker.reply?_getResult transaction id with
      ⟨_, refused⟩ | ⟨slot, live, ⟨_, refused⟩ | ⟨_, granted⟩⟩
    · cases refused.symm.trans replies
      exact ⟨kind, transaction, rfl, .inr rfl⟩
    · cases refused.symm.trans replies
      exact ⟨kind, transaction, rfl, .inl rfl⟩
    · cases granted.symm.trans replies
      have bound := formed.known transaction ((Table.isLive_iff ..).mp (Table.isLive_of_find? live))
      exact ⟨kind, transaction, rfl, bound⟩
  | cancel transaction =>
    cases same
    cases asks
  | listTransactions =>
    cases same
    cases replies
    rfl

theorem sound_progress (formed : broker.WellFormed) {id : CallId} {call : Call}
    {phase : Call.Phase} {actions : List Action}
    {taken : Option (TransactionId × List ResultValue)}
    (before : broker.calls[id]? = some call)
    (progresses : Progresses broker id call phase actions taken events) :
    ({ call with phase } : Call).Sound broker.runs.length := by
  have sound := formed.sound id call before
  cases progresses with
  | queued up accepts room replied => exact replied
  | opened => exact sound
  | @tookLast kind transaction run _ _ found =>
    have bound := (broker.run?_isSome_iff transaction).mp (Option.isSome_of_eq_some found)
    exact ⟨kind, transaction, rfl, bound⟩
  | _ => trivial

theorem sound_step (formed : broker.WellFormed)
    (taken : broker.turn? service turn = some (after, events)) :
    ∀ (id : CallId) (call : Call), after.calls[id]? = some call →
      call.Sound after.runs.length := by
  intro id next found
  obtain ⟨request, phase⟩ := next
  refine Call.Sound.mono ?_ (runs_grow taken)
  rcases call_origin taken found with ⟨call, before, same, step⟩ | ⟨_, _, submitting, _, _⟩
  · cases same
    cases step with
    | kept => exact formed.sound id call before
    | told waits up head asks replies => exact formed.sound_reply before head asks replies
    | progressed progresses => exact formed.sound_progress before progresses
    | abandoned => trivial
  · cases submitting
    trivial

theorem ended_step (formed : broker.WellFormed)
    (taken : broker.turn? service turn = some (after, events))
    (ended : after.dispatcher = .ended) : after.shutdown = true ∨ after.hasSenders = false := by
  obtain ⟨_, _, _, down, unreachable⟩ := settings_step taken
  have lasts (final : broker.shutdown = true ∨ broker.hasSenders = false) :
      after.shutdown = true ∨ after.hasSenders = false :=
    final.imp down fun none => hasSenders_step taken none unreachable
  have step := dispatcher_step taken
  generalize after.dispatcher = dispatcher at step ended
  cases step with
  | kept => exact lasts (formed.ended ended)
  | stopped running final => exact lasts (final.imp_right And.right)
  | started | dropped | scheduled => cases ended

theorem unopened_step (formed : broker.WellFormed)
    (taken : broker.turn? service turn = some (after, events))
    (unopened : after.dispatcher = .idle ∨ after.dispatcher = .dropped) : after.runs = [] := by
  have before : broker.dispatcher = .idle ∨ broker.dispatcher = .dropped := by
    have step := dispatcher_step taken
    generalize after.dispatcher = dispatcher at step unopened
    cases step with
    | kept => exact unopened
    | dropped idle => exact .inl idle
    | started | stopped | scheduled => rcases unopened with equal | equal <;> cases equal
  have none := formed.unopened before
  rcases table_step taken with ⟨_, same, _⟩ | ⟨_, _, _, _, due, running⟩
  · rw [none] at same
    exact List.eq_nil_of_length_eq_zero same
  · rw [running] at before
    rcases before with equal | equal <;> cases equal

theorem cancelled_step (formed : broker.WellFormed)
    (taken : broker.turn? service turn = some (after, events)) :
    ∀ id slot, after.table.find? id = some slot → slot.state = .cancelled →
      ∃ run, after.run? id = some run ∧ run.cancelled = true := by
  intro id next found cancelled
  cases before : broker.table.find? id with
  | none =>
    rcases slot_begun taken before with missing | ⟨_, slot, there, pending⟩
    · rw [missing] at found
      cases found
    · have same : slot = next := Option.some.inj (there.symm.trans found)
      rw [same, cancelled] at pending
      cases pending
  | some slot =>
    obtain ⟨run, there⟩ := formed.run?_isSome (Table.isLive_of_find? before)
    obtain ⟨later, kept, step⟩ := run_step taken there
    refine ⟨later, kept, ?_⟩
    have same := slot_step taken before (formed.old_of_find? before)
    rw [found] at same
    cases same with
    | kept =>
      obtain ⟨run', there', down⟩ := formed.cancelled id _ before cancelled
      have equal : run' = run := Option.some.inj (there'.symm.trans there)
      exact step.cancelled (equal ▸ down)
    | accessed => cases cancelled
    | cancelled =>
      cases step with
      | kept _ _ _ unsignalled =>
        exact absurd rfl (unsignalled _ (List.mem_cons_of_mem _ List.mem_cons_self))
      | signalled => rfl

theorem step (formed : broker.WellFormed)
    (taken : broker.turn? service turn = some (after, events)) : after.WellFormed where
  numbered := by
    rcases table_step taken with ⟨next, runs, _⟩ | ⟨next, runs, _⟩
    · rw [next, runs, formed.numbered]
    · rw [next, runs, formed.numbered]
  known := formed.known_step taken
  asked := formed.asked_step taken
  single := formed.single_step taken
  awaited := formed.awaited_step taken
  sound := formed.sound_step taken
  ended := formed.ended_step taken
  unopened := formed.unopened_step taken
  cancelled := formed.cancelled_step taken

end WellFormed

/-- As long as a call is pending, a broker that opened a transaction and was not shut down takes
actions. -/
theorem accepts_of_pending (formed : broker.WellFormed) (up : broker.shutdown = false)
    {id : TransactionId} {run : Run Task} (begun : broker.run? id = some run) {caller : CallId}
    {call : Call} (found : broker.calls[caller]? = some call)
    (pending : call.isPending = true) : ∃ due, broker.dispatcher = .running due := by
  have opened : broker.runs ≠ [] := by
    intro none
    have known := ((broker.run?_isSome_iff id).mp (Option.isSome_of_eq_some begun))
    rw [none] at known
    exact absurd (Nat.lt_of_lt_of_le known.1 known.2) (Nat.lt_irrefl 0)
  cases state : broker.dispatcher with
  | running due => exact ⟨due, rfl⟩
  | idle => exact absurd (formed.unopened (.inl state)) opened
  | dropped => exact absurd (formed.unopened (.inr state)) opened
  | ended =>
    rcases formed.ended state with down | silent
    · rw [up] at down
      cases down
    · simp only [hasSenders, Bool.or_eq_false_iff, List.any_eq_false] at silent
      exact absurd pending (silent.2 call (List.mem_of_getElem? found))

end Broker

theorem Trace.invariant {service : Service World Task} {start last : Broker World Task}
    {moments : List (Moment World Task)} {holds : Broker World Task → Prop}
    (trace : Trace service start moments last) (first : holds start)
    (step : ∀ {broker after : Broker World Task} {turn : Turn World} {events : List Event},
      holds broker → broker.turn? service turn = some (after, events) → holds after) :
    holds last := by
  induction trace with
  | nil => exact first
  | snoc _ taken ih => exact step ih taken

theorem Trace.down {service : Service World Task} {start last : Broker World Task}
    {moments : List (Moment World Task)} (trace : Trace service start moments last)
    (down : start.shutdown = true) : last.shutdown = true :=
  trace.invariant down fun down taken => (Broker.settings_step taken).2.2.2.1 down

theorem Trace.up {service : Service World Task} {start last : Broker World Task}
    {moments : List (Moment World Task)} (trace : Trace service start moments last)
    (up : last.shutdown = false) : start.shutdown = false := by
  cases down : start.shutdown with
  | false => rfl
  | true => exact (trace.down down).symm.trans up

theorem Trace.runs_grow {service : Service World Task} {start last : Broker World Task}
    {moments : List (Moment World Task)} (trace : Trace service start moments last) :
    start.runs.length ≤ last.runs.length :=
  trace.invariant (Nat.le_refl _) fun fewer taken => Nat.le_trans fewer (Broker.runs_grow taken)

theorem Trace.kept_run {service : Service World Task} {start last : Broker World Task}
    {moments : List (Moment World Task)} (trace : Trace service start moments last)
    {id : TransactionId} {run : Run Task} (found : start.run? id = some run) :
    ∃ next, last.run? id = some next := by
  induction trace with
  | nil => exact ⟨run, found⟩
  | snoc _ taken ih =>
    obtain ⟨run, found⟩ := ih
    obtain ⟨next, there, _⟩ := Broker.run_step taken found
    exact ⟨next, there⟩

theorem Trace.formed {service : Service World Task} {start last : Broker World Task}
    {moments : List (Moment World Task)} (trace : Trace service start moments last)
    (formed : start.WellFormed) : last.WellFormed :=
  trace.invariant formed fun formed taken => formed.step taken

theorem Trace.wellFormed {service : Service World Task} {config : Config} {origin : Timestamp}
    {world : World} {thrownAway : List TransactionId} {moments : List (Moment World Task)}
    {last : Broker World Task}
    (trace : Trace service (.fresh config origin world thrownAway) moments last) :
    last.WellFormed := trace.formed (.fresh config origin world thrownAway)

end InstanceBroker
