import InstanceBroker.Proofs.Causes
import InstanceBroker.Proofs.Custody.Deed
import InstanceBroker.Proofs.Opening
import InstanceBroker.Proofs.Release
import InstanceBroker.Proofs.Shutdown

namespace InstanceBroker

variable {World Task : Type} {service : Service World Task}

theorem Config.sweepInterval_pos {config : Config} (valid : config.validate = .ok config)
    {ttl : Duration} (limit : config.transactionTtl = some ttl) :
    0 < config.sweepInterval.nanos := by
  unfold validate at valid
  split at valid
  · cases valid
  · rename_i unbroken
    have nonzero := (config.violation?_eq_none_iff.mp unbroken).2.2 (by rw [limit]; rfl)
    simpa [Duration.isZero, Nat.pos_iff_ne_zero] using nonzero

def Sweeps (events : List Event) : Prop :=
  (∀ action, .handled action ∉ events) ∧ ∀ ids, .stopped ids ∉ events

/-- The transaction is live, and so much time has passed since its start was handled. -/
def Aged (moments : List (Moment World Task)) (broker : Broker World Task) (id : TransactionId)
    (age : Nat) : Prop :=
  broker.table.isLive id = true ∧
    ∃ opening ∈ moments, opening.Opens id ∧ age = broker.clock - opening.broker.clock

theorem Table.mem_expired_iff {table : Table} (unshared : table.ids.Nodup) {ttl : Duration}
    {now : Nat} {id : TransactionId} :
    id ∈ table.expired ttl now ↔
      ∃ slot, table.find? id = some slot ∧ ttl.nanos ≤ now - slot.openedAt := by
  simp only [expired, List.mem_map, List.mem_filter]
  constructor
  · rintro ⟨slot, ⟨among, old⟩, rfl⟩
    exact ⟨slot, find?_of_mem unshared among, of_decide_eq_true old⟩
  · rintro ⟨slot, found, old⟩
    have number : slot.id = id := by simpa using List.find?_some found
    exact ⟨slot, ⟨List.mem_of_find?_eq_some found, decide_eq_true old⟩, number⟩

namespace Broker

variable {broker after : Broker World Task} {turn : Turn World} {events : List Event}
  {id : TransactionId} {slot : Slot} {ttl : Duration} {due : Nat}

theorem find?_sweep (ttl : Duration) (due : Nat) (id : TransactionId) :
    (broker.sweep ttl due).1.table.find? id =
      if id ∈ broker.table.expired ttl broker.clock then none else broker.table.find? id := by
  simp only [sweep, foldl_discard, Table.find?_foldl_erase]

theorem swept_of_sweeps
    (taken : broker.turn? service (.move .dispatcher) = some (after, events))
    (sweeps : Sweeps events) : ∃ ttl due, broker.dispatcher = .running due ∧
      broker.shutdown = false ∧ broker.queue = [] ∧ broker.config.transactionTtl = some ttl ∧
      due ≤ broker.clock ∧ after = (broker.sweep ttl due).1 ∧
      events = (broker.table.expired ttl broker.clock).map .swept := by
  cases (dispatches_of_dispatch? taken).2 with
  | stopped => exact absurd List.mem_cons_self (sweeps.2 _)
  | handled => exact absurd List.mem_cons_self (sweeps.1 _)
  | swept up idle running limit reached =>
    exact ⟨_, _, running, up, idle, limit, reached, rfl, rfl⟩

theorem sweeps_of_swept (taken : broker.turn? service turn = some (after, events))
    (swept : .swept id ∈ events) : turn = .move .dispatcher ∧ Sweeps events := by
  cases turns_of_turn? taken with
  | dispatched running dispatches =>
    refine ⟨rfl, ?_⟩
    cases dispatches with
    | stopped => simp at swept
    | handled up head handles => cases handles <;> simp at swept
    | swept => exact ⟨by simp, by simp⟩
  | advanced _ advances => cases advances <;> simp at swept
  | progressed _ progresses => cases progresses <;> simp at swept
  | received | changed => cases swept

theorem calls_of_swept (taken : broker.turn? service turn = some (after, events))
    (swept : .swept id ∈ events) : after.calls = broker.calls := by
  obtain ⟨rfl, sweeps⟩ := sweeps_of_swept taken swept
  obtain ⟨_, _, _, _, _, _, _, rfl, _⟩ := swept_of_sweeps taken sweeps
  rw [sweep_frame]

theorem idle_of_swept (taken : broker.turn? service turn = some (after, events))
    (swept : .swept id ∈ events) : broker.queue = [] := by
  obtain ⟨rfl, sweeps⟩ := sweeps_of_swept taken swept
  obtain ⟨_, _, _, _, idle, _⟩ := swept_of_sweeps taken sweeps
  exact idle

theorem live_of_swept (taken : broker.turn? service turn = some (after, events))
    (swept : .swept id ∈ events) : broker.table.isLive id = true := by
  obtain ⟨rfl, sweeps⟩ := sweeps_of_swept taken swept
  obtain ⟨_, _, _, _, _, _, _, _, rfl⟩ := swept_of_sweeps taken sweeps
  exact isLive_of_expired (by simpa using swept)

theorem struck_of_sweeps (formed : broker.WellFormed)
    (taken : broker.turn? service (.move .dispatcher) = some (after, events))
    (sweeps : Sweeps events) : (∀ id, if .swept id ∈ events then
        after.table.find? id = none ∧ after.isSignalled id = true
      else after.table.find? id = broker.table.find? id ∧ after.run? id = broker.run? id) ∧
    after.calls = broker.calls ∧ after.queue = broker.queue ∧ after.world = broker.world := by
  obtain ⟨ttl, due, _, _, _, _, _, rfl, rfl⟩ := swept_of_sweeps taken sweeps
  refine ⟨fun id => ?_, by rw [sweep_frame], by rw [sweep_frame], by rw [sweep_frame]⟩
  rw [find?_sweep, isSignalled, run?_sweep]
  split
  · rename_i swept
    have expired : id ∈ broker.table.expired ttl broker.clock := by simpa using swept
    obtain ⟨run, found⟩ := formed.run?_isSome (isLive_of_expired expired)
    rw [if_pos expired, if_pos expired, found]
    exact ⟨rfl, rfl⟩
  · rename_i spared
    have young : id ∉ broker.table.expired ttl broker.clock := by simpa using spared
    rw [if_neg young, if_neg young]
    exact ⟨rfl, rfl⟩

/-- Where the time of the next sweep comes from: it stands as it was, or the dispatcher starts or
sweeps. -/
theorem schedule_step (taken : broker.turn? service turn = some (after, events)) {later : Nat}
    (running : after.dispatcher = .running later) :
    broker.dispatcher = .running later ∨
      broker.dispatcher = .idle ∧ later = broker.sweepAfter broker.clock ∧
        after.table = broker.table ∧ after.clock = broker.clock ∨
      ∃ ttl due, broker.dispatcher = .running due ∧ broker.config.transactionTtl = some ttl ∧
        due ≤ broker.clock ∧ later = broker.sweepAfter due ∧
          after = (broker.sweep ttl due).1 := by
  cases turns_of_turn? taken with
  | dispatched _ dispatches =>
    cases dispatches with
    | stopped =>
      rw [stop_frame] at running
      cases running
    | handled up head handles =>
      rw [handles.frame] at running
      exact .inl running
    | swept up idle before limit reached =>
      rw [sweep_frame] at running
      cases running
      exact .inr (.inr ⟨_, _, before, limit, reached, rfl, rfl⟩)
  | advanced =>
    rw [(advanced_frame ..).1] at running
    exact .inl running
  | progressed =>
    rw [(moved_frame ..).1] at running
    exact .inl running
  | @received input =>
    cases input with
    | startDispatcher =>
      simp only [receive, startDispatcher] at running ⊢
      split at running
      · rename_i idle
        cases running
        exact .inr (.inl ⟨idle, rfl, by simp, by simp⟩)
      · exact .inl running
    | dropDispatcher =>
      simp only [receive, dropDispatcher] at running
      split at running
      · cases running
      · exact .inl running
    | request =>
      simp only [receive] at running
      split at running <;> exact .inl running
    | tick | shutdown | close | abandon => exact .inl running
  | changed => exact .inl running

/-- The next sweep is not far off, and no transaction reaches its limit by more than an interval
before it. -/
def Timely (ttl : Duration) (broker : Broker World Task) : Prop :=
  ∀ due, broker.dispatcher = .running due → due ≤ broker.sweepAfter broker.clock ∧
    ∀ id slot, broker.table.find? id = some slot →
      due ≤ slot.openedAt + ttl.nanos + broker.config.sweepInterval.nanos

theorem timely_step (formed : broker.WellFormed) (limit : broker.config.transactionTtl = some ttl)
    (timely : broker.Timely ttl) (taken : broker.turn? service turn = some (after, events)) :
    after.Timely ttl := by
  intro later running
  have clock := clock_step taken
  have settings := (settings_step taken).1
  simp only [Timely, sweepAfter, settings] at timely ⊢
  rcases schedule_step taken running with
    before | ⟨idle, rfl, table, same⟩ | ⟨ttl', due, before, limit', reached, rfl, rfl⟩
  · obtain ⟨soon, fit⟩ := timely later before
    refine ⟨by omega, fun id slot found => ?_⟩
    cases earlier : broker.table.find? id with
    | some old =>
      rw [openedAt_kept formed taken earlier found]
      exact fit id old earlier
    | none =>
      -- What opens now cannot be late for a sweep that is an interval away at most.
      rw [(dated_step taken earlier found).2]
      omega
  · refine ⟨Nat.le_of_eq (by rw [sweepAfter, same]), fun id slot found => ?_⟩
    -- A dispatcher that has just started has not opened anything yet.
    rw [table] at found
    obtain ⟨run, begun⟩ := formed.run?_isSome (Table.isLive_of_find? found)
    have none := formed.unopened (.inl idle)
    have known := (broker.run?_isSome_iff id).mp (Option.isSome_of_eq_some begun)
    rw [none] at known
    exact absurd (Nat.lt_of_lt_of_le known.1 known.2) (Nat.lt_irrefl 0)
  · cases limit.symm.trans limit'
    refine ⟨by rw [sweepAfter]; omega, fun id slot found => ?_⟩
    rw [find?_sweep] at found
    split at found
    · cases found
    · -- What the sweep spares has not reached the limit.
      rename_i spared
      have among := List.mem_of_find?_eq_some found
      have number : slot.id = id := by simpa using List.find?_some found
      have young : ¬ ttl.nanos ≤ broker.clock - slot.openedAt := fun old =>
        spared (List.mem_map.mpr
          ⟨slot, List.mem_filter.mpr ⟨among, decide_eq_true old⟩, number⟩)
      rw [sweepAfter]
      omega

theorem early_of_blocked (running : broker.dispatcher = .running due) (up : broker.shutdown = false)
    (limit : broker.config.transactionTtl = some ttl)
    (blocked : broker.dispatch? service = none) : broker.clock < due := by
  have idle := queue_of_blocked running up blocked
  simp only [dispatch?, running, up, idle, limit] at blocked
  split at blocked
  · cases blocked
  · split at blocked
    · cases blocked
    · split at blocked
      · cases blocked
      · rename_i early
        exact Nat.lt_of_not_le early

theorem Handles.discarded_of_gone {operation : Operation} {caller : CallId}
    (handles : Handles service broker (.start operation caller) after events)
    (gone : after.table.find? broker.table.nextId = none) :
    .discarded broker.table.nextId ∈ events := by
  cases handles with
  | opened =>
    have live : broker.table.nextId ∈ (broker.opening service operation).table.ids := by
      simp [opening]
    have there := (Table.isLive_iff ..).mpr live
    rw [Table.isLive] at there
    have missing : (broker.opening service operation).table.find? broker.table.nextId = none := gone
    rw [missing] at there
    cases there
  | orphaned => exact List.mem_cons_of_mem _ List.mem_cons_self

theorem returns_of_forfeits (formed : broker.WellFormed) (cancelled : broker.isCancelled id = true)
    {caller : CallId} {kind : Operation.Kind} {phase : Call.Phase}
    (found : broker.calls[caller]? = some { request := .collect kind id, phase })
    (forfeits : ({ request := .collect kind id, phase } : Call).Forfeits) :
    broker.Returns service caller
      { request := .collect kind id, phase } (· = .error .cancelled) := by
  constructor
  case answers =>
    rintro outcome rfl
    rcases forfeits with equal | equal | equal | equal <;> cases equal
    rfl
  case moves =>
    intro pending _ blocked
    rcases forfeits with rfl | rfl | rfl | rfl
    · obtain ⟨_, _, moves⟩ : ∃ after events, broker.turn? service (.move (.call caller)) =
          some (after, events) := moves_of_granted found
      cases blocked.symm.trans moves
    · obtain ⟨_, moves⟩ : ∃ after, broker.turn? service (.move (.call caller)) =
          some (after, [.answered caller (.error .cancelled)]) :=
        fails_of_reading formed cancelled found
      cases blocked.symm.trans moves
    · cases pending
    · cases pending

theorem returns_of_rebuffed {caller : CallId} {call : Call}
    (found : broker.calls[caller]? = some call) (rebuffed : call.Rebuffed) :
    broker.Returns service caller call (· = .error .cancelled) := by
  obtain ⟨request, phase⟩ := call
  constructor
  case answers =>
    rintro outcome rfl
    rcases rebuffed with equal | equal | equal <;> cases equal
    rfl
  case moves =>
    intro pending _ blocked
    rcases rebuffed with rfl | rfl | rfl
    · obtain ⟨_, moves⟩ := turn?_rebuffed service found
      cases blocked.symm.trans moves
    · cases pending
    · cases pending

end Broker

namespace Trace

variable {start last : Broker World Task} {moments : List (Moment World Task)} {id : TransactionId}

theorem unknown_of_missing (trace : Trace service start moments last) (formed : start.WellFormed)
    (up : last.shutdown = false) {run : Run Task} (begun : start.run? id = some run)
    (missing : start.table.find? id = none) {caller : CallId} {kind : Operation.Kind}
    (untold : ∀ phase, start.calls[caller]? = some { request := .collect kind id, phase } →
      phase = .submitting) {phase : Call.Phase}
    (found : last.calls[caller]? = some { request := .collect kind id, phase }) :
    ({ request := .collect kind id, phase } : Call).Informed
      (· = .refused (.unknownTransaction id)) fun _ => False := by
  refine trace.informed formed (by simp) (by simp) (fun moment among => ?_)
    (fun phase there => ?_) phase found
  · obtain ⟨first, later, after, _, before, taken, rest⟩ := trace.split among
    obtain ⟨run, begun'⟩ := before.kept_run begun
    apply Broker.informs_of_replies (before.formed formed)
      (((single taken).append rest).up up) begun'
    intro queue reply _ replies
    have known := ((start.run?_isSome_iff id).mp (Option.isSome_of_eq_some begun)).2
    have absent := before.missing_kept formed known missing
    rcases moment.broker.reply?_getResult id caller with ⟨_, refused⟩ | ⟨slot, live, _⟩
    · exact Option.some.inj (replies.symm.trans refused)
    · cases absent.symm.trans live
  · cases untold phase there
    trivial

variable {config : Config} {origin : Timestamp} {world : World} {thrownAway : List TransactionId}

theorem timely (trace : Trace service (.fresh config origin world thrownAway) moments last)
    {ttl : Duration} (limit : config.transactionTtl = some ttl) : last.Timely ttl := by
  induction trace with
  | nil => exact fun due running => by cases running
  | snoc earlier taken ih =>
    exact Broker.timely_step earlier.wellFormed (earlier.config_eq ▸ limit) ih taken

theorem running_of_live (trace : Trace service (.fresh config origin world thrownAway) moments last)
    {slot : Slot} (found : last.table.find? id = some slot) :
    ∃ due, last.dispatcher = .running due := by
  have formed := trace.wellFormed
  obtain ⟨run, begun⟩ := formed.run?_isSome (Table.isLive_of_find? found)
  have cleared : last.dispatcher = .ended → last.table.slots = [] := by
    refine trace.invariant (fun ended => ?_) fun cleared taken => Broker.cleared_step taken cleared
    cases ended
  have unopened (none : last.runs = []) : False := by
    have known := (last.run?_isSome_iff id).mp (Option.isSome_of_eq_some begun)
    rw [none] at known
    exact absurd (Nat.lt_of_lt_of_le known.1 known.2) (Nat.lt_irrefl 0)
  cases state : last.dispatcher with
  | running due => exact ⟨due, rfl⟩
  | idle => exact (unopened (formed.unopened (.inl state))).elim
  | dropped => exact (unopened (formed.unopened (.inr state))).elim
  | ended =>
    rw [Table.find?, cleared state] at found
    cases found

theorem forfeits_of_untaken
    (trace : Trace service (.fresh config origin world thrownAway) moments last)
    (idle : last.queue = []) {caller : CallId} {kind : Operation.Kind} {phase : Call.Phase}
    (found : last.calls[caller]? = some { request := .collect kind id, phase })
    (pending : ({ request := .collect kind id, phase } : Call).isPending = true)
    (submitted : phase ≠ .submitting)
    (known : phase ≠ .told (.refused (.unknownTransaction id)))
    (untaken : takenBy caller (history moments) = []) :
    ({ request := .collect kind id, phase } : Call).Forfeits ∨
      ({ request := .collect kind id, phase } : Call).Rebuffed := by
  have sound := trace.wellFormed.sound caller _ found
  have account := (trace.account caller).2 _ found
  rw [untaken] at account
  cases phase with
  | submitting => exact absurd rfl submitted
  | awaiting =>
    have queued := trace.wellFormed.awaited caller _ found rfl
    rw [idle] at queued
    cases queued
  | told reply =>
    cases reply with
    | granted => exact .inl (.inl rfl)
    | refused fault =>
      obtain ⟨_, _, asked, rfl | rfl⟩ := sound
      · exact .inr (.inl rfl)
      · cases asked
        exact absurd rfl known
    | opened =>
      obtain ⟨_, asked⟩ := sound
      cases asked
    | listing => cases sound
  | reading => exact .inl (.inr (.inl rfl))
  | completing =>
    obtain ⟨_, took, _⟩ := account
    cases took
  | answered | abandoned => cases pending

theorem removed (trace : Trace service (.fresh config origin world thrownAway) moments last)
    {opening : Moment World Task} (among : opening ∈ moments) (opens : opening.Opens id)
    (gone : last.table.find? id = none) :
    ∃ event ∈ history moments, event = .completed id ∨ event = .discarded id ∨
      event = .swept id ∨ ∃ ids, event = .stopped ids ∧ id ∈ ids := by
  induction trace with
  | nil => cases among
  | @snoc moments broker after turn events earlier taken ih =>
    simp only [history_append, history_singleton, List.mem_append, or_and_right, exists_or]
    cases before : broker.table.find? id with
    | some slot =>
      right
      have step := Broker.slot_step taken before (earlier.wellFormed.old_of_find? before)
      rw [gone] at step
      cases step with
      | completed => exact ⟨_, List.mem_cons_of_mem _ List.mem_cons_self, .inl rfl⟩
      | swept event => exact ⟨_, event, .inr (.inr (.inl rfl))⟩
      | stopped live => exact ⟨_, List.mem_cons_self, .inr (.inr (.inr ⟨_, rfl, live⟩))⟩
    | none =>
      rcases List.mem_append.mp among with old | new
      · exact .inl (ih old before)
      · right
        cases List.mem_singleton.mp new
        obtain ⟨kind, opened⟩ := opens
        obtain ⟨_, _, handled, _, rfl⟩ := Broker.handled_of_opened taken opened
        obtain ⟨later, _, rfl, _, _, handles⟩ := Broker.handles_of_handled taken handled
        exact ⟨_, List.mem_cons_of_mem _ (handles.discarded_of_gone gone), .inr (.inl rfl)⟩

theorem aged_iff (trace : Trace service (.fresh config origin world thrownAway) moments last)
    {age : Nat} : Aged moments last id age ↔
      ∃ slot, last.table.find? id = some slot ∧ age = last.clock - slot.openedAt := by
  constructor
  · rintro ⟨live, opening, among, opens, rfl⟩
    obtain ⟨slot, found⟩ := Option.isSome_iff_exists.mp live
    exact ⟨slot, found, by rw [(trace.dated (.fresh ..) among opens).2 slot found]⟩
  · rintro ⟨slot, found, rfl⟩
    obtain ⟨opening, among, opens, dated⟩ := trace.opened_of_live found
    exact ⟨Table.isLive_of_find? found, opening, among, opens, by rw [dated]⟩

section Swept

variable {first later : List (Moment World Task)} {moment : Moment World Task} {caller : CallId}
  {kind : Operation.Kind} {phase : Call.Phase}

theorem fails_of_swept
    (trace : Trace service (.fresh config origin world thrownAway) (first ++ moment :: later) last)
    (swept : .swept id ∈ moment.events)
    (there : moment.broker.calls[caller]? = some { request := .collect kind id, phase })
    (pending : ({ request := .collect kind id, phase } : Call).isPending = true)
    (submitted : phase ≠ .submitting)
    (known : phase ≠ .told (.refused (.unknownTransaction id)))
    (untaken : takenBy caller (history first) = []) :
    ∃ next, last.calls[caller]? = some { request := .collect kind id, phase := next } ∧
      last.Returns service caller { request := .collect kind id, phase := next }
        (· = .error .cancelled) := by
  have formed := trace.wellFormed
  obtain ⟨after, before, taken, rest⟩ := trace.split_at
  have signalled : after.isSignalled id = true :=
    ((before.snoc taken).struck_iff id).mpr
      ⟨_, List.mem_append_right _ List.mem_cons_self, .swept swept⟩
  have cancelled : after.isCancelled id = true := Bool.or_eq_true _ _ |>.mpr (.inr signalled)
  have fails := before.forfeits_of_untaken (Broker.idle_of_swept taken swept) there pending
    submitted known untaken
  rw [← Broker.calls_of_swept taken swept] at there
  rcases fails with forfeits | rebuffed
  · obtain ⟨next, there, forfeits, _⟩ := rest.forfeits cancelled there forfeits
    exact ⟨next, there,
      Broker.returns_of_forfeits formed (rest.isCancelled_kept cancelled) there forfeits⟩
  · obtain ⟨next, there, rebuffed⟩ := rest.rebuffed there rebuffed
    exact ⟨next, there, Broker.returns_of_rebuffed there rebuffed⟩

theorem unknown_of_swept (valid : config.validate = .ok config)
    (trace : Trace service (.fresh config origin world thrownAway) (first ++ moment :: later) last)
    (up : last.shutdown = false) (swept : .swept id ∈ moment.events)
    (untold : ∀ before, moment.broker.calls[caller]? =
      some { request := .collect kind id, phase := before } → before = .submitting)
    (there : last.calls[caller]? = some { request := .collect kind id, phase }) :
    last.Returns service caller { request := .collect kind id, phase }
      (· = .error (.unknownTransaction id)) := by
  have formed := trace.wellFormed
  have roomy := trace.roomy valid
  obtain ⟨after, before, taken, rest⟩ := trace.split_at
  rw [← Broker.calls_of_swept taken swept] at untold
  obtain ⟨run, begun⟩ := before.wellFormed.run?_isSome (Broker.live_of_swept taken swept)
  obtain ⟨run, begun, _⟩ := Broker.run_step taken begun
  obtain ⟨_, begun'⟩ := rest.kept_run begun
  have informed := rest.unknown_of_missing (before.snoc taken).wellFormed up begun
    (Broker.missing_of_removed taken (.inl swept)) untold there
  refine Broker.returns_of_informed formed roomy begun' there informed ?_ ?_
  · rintro _ outcome rfl known
    cases known
    rfl
  · intro _ never
    cases never

end Swept

end Trace

/-- What becomes of the transactions of a broker with time. -/
structure Expiry (service : Service World Task) (config : Config)
    (moments : List (Moment World Task)) (last : Broker World Task) : Prop where
  aged : ∀ id, last.table.isLive id = true → ∃! age, Aged moments last id age
  picked : ∀ ttl, config.transactionTtl = some ttl → ∀ after events,
    last.turn? service (.move .dispatcher) = some (after, events) → Sweeps events → ∀ id,
    .swept id ∈ events ↔ ∃ age, Aged moments last id age ∧ ttl.nanos ≤ age
  struck : ∀ after events, last.turn? service (.move .dispatcher) = some (after, events) →
    Sweeps events → (∀ id, if .swept id ∈ events then
        after.table.find? id = none ∧ after.isSignalled id = true
      else after.table.find? id = last.table.find? id ∧ after.run? id = last.run? id) ∧
    after.calls = last.calls ∧ after.queue = last.queue ∧ after.world = last.world
  sole : ∀ turn after events id, last.turn? service turn = some (after, events) →
    .swept id ∈ events → turn = .move .dispatcher ∧ Sweeps events
  young : ∀ ttl, config.transactionTtl = some ttl → last.Settled service → ∀ id age,
    Aged moments last id age → age < ttl.nanos + config.sweepInterval.nanos
  /-- A call that waits for a result meanwhile fails, unless it asked too early and was told so. -/
  waiting : ∀ first moment later id, moments = first ++ moment :: later →
    .swept id ∈ moment.events → ∀ caller kind phase,
    moment.broker.calls[caller]? = some { request := .collect kind id, phase } →
    ({ request := .collect kind id, phase } : Call).isPending = true →
    phase ≠ .submitting → phase ≠ .told (.refused (.unknownTransaction id)) →
    takenBy caller (history first) = [] →
    ∃ next, last.calls[caller]? = some { request := .collect kind id, phase := next } ∧
      last.Returns service caller { request := .collect kind id, phase := next }
        (· = .error .cancelled)
  /-- A call that comes later, or has not got as far as the queue, finds nothing. -/
  late : ∀ first moment later id, moments = first ++ moment :: later →
    .swept id ∈ moment.events → ∀ caller kind phase,
    (∀ before, moment.broker.calls[caller]? =
        some { request := .collect kind id, phase := before } →
      before = .submitting) →
    last.calls[caller]? = some { request := .collect kind id, phase } →
    last.Returns service caller { request := .collect kind id, phase }
      (· = .error (.unknownTransaction id))
  kept : config.transactionTtl = none → ∀ id, (∃ opening ∈ moments, opening.Opens id) →
    last.table.isLive id = false → ∃ event ∈ history moments,
      event = .completed id ∨ event = .discarded id ∨
        ∃ ids, event = .stopped ids ∧ id ∈ ids

variable {config : Config} {origin : Timestamp} {world : World} {thrownAway : List TransactionId}
  {moments : List (Moment World Task)} {last : Broker World Task}

theorem expiry_of_trace (valid : config.validate = .ok config)
    (trace : Trace service (.fresh config origin world thrownAway) moments last)
    (up : last.shutdown = false) : Expiry service config moments last := by
  have formed := trace.wellFormed
  have config_eq : last.config = config := trace.config_eq
  have unshared : last.table.ids.Nodup := trace.ascending.imp Nat.ne_of_lt
  constructor
  case aged =>
    intro id live
    obtain ⟨slot, found⟩ := Option.isSome_iff_exists.mp live
    refine ⟨last.clock - slot.openedAt, trace.aged_iff.mpr ⟨slot, found, rfl⟩,
      fun age aged => ?_⟩
    obtain ⟨other, there, rfl⟩ := trace.aged_iff.mp aged
    cases there.symm.trans found
    rfl
  case picked =>
    intro ttl limit after events taken sweeps id
    obtain ⟨ttl', _, _, _, _, limit', _, _, rfl⟩ := Broker.swept_of_sweeps taken sweeps
    rw [config_eq, limit] at limit'
    cases limit'
    have listed : .swept id ∈ (last.table.expired ttl last.clock).map Event.swept ↔
        id ∈ last.table.expired ttl last.clock := by simp
    rw [listed, Table.mem_expired_iff unshared]
    constructor
    · rintro ⟨slot, found, old⟩
      exact ⟨_, trace.aged_iff.mpr ⟨slot, found, rfl⟩, old⟩
    · rintro ⟨age, aged, old⟩
      obtain ⟨slot, found, rfl⟩ := trace.aged_iff.mp aged
      exact ⟨slot, found, old⟩
  case struck => exact fun after events taken sweeps => Broker.struck_of_sweeps formed taken sweeps
  case sole => exact fun turn after events id taken swept => Broker.sweeps_of_swept taken swept
  case young =>
    intro ttl limit settled id age aged
    obtain ⟨slot, found, rfl⟩ := trace.aged_iff.mp aged
    obtain ⟨due, running⟩ := trace.running_of_live found
    obtain ⟨_, fit⟩ := trace.timely limit due running
    have soon := Broker.early_of_blocked running up (config_eq ▸ limit) (settled .dispatcher)
    have interval := Config.sweepInterval_pos valid limit
    have bound := fit id slot found
    rw [config_eq] at bound
    omega
  case waiting =>
    rintro first moment later id rfl swept caller kind phase there pending submitted known untaken
    exact trace.fails_of_swept swept there pending submitted known untaken
  case late =>
    rintro first moment later id rfl swept caller kind phase untold there
    exact trace.unknown_of_swept valid up swept untold there
  case kept =>
    rintro unlimited id ⟨opening, among, opens⟩ gone
    have missing : last.table.find? id = none := by simpa [Table.isLive] using gone
    obtain ⟨event, there, cause⟩ := trace.removed among opens missing
    rcases cause with completed | discarded | rfl | stopped
    · exact ⟨event, there, .inl completed⟩
    · exact ⟨event, there, .inr (.inl discarded)⟩
    · obtain ⟨moment, moments, swept⟩ := List.mem_flatMap.mp there
      obtain ⟨first, later, after, rfl, before, taken, _⟩ := trace.split moments
      obtain ⟨turn, sweeps⟩ := Broker.sweeps_of_swept taken swept
      rw [turn] at taken
      obtain ⟨_, _, _, _, _, limit, _⟩ := Broker.swept_of_sweeps taken sweeps
      have same : moment.broker.config = config := before.config_eq
      rw [same, unlimited] at limit
      cases limit
    · exact ⟨event, there, .inr (.inr stopped)⟩

def brief : Config where
  transactionTtl := some (.ofMillis 2)
  sweepInterval := .ofMillis 3

def aging : List (Turn Catalogue) :=
  [.input .startDispatcher, .input (.request (.initiate .listInstances)), .move (.call 0),
    .move .dispatcher, .move (.call 0), .input (.request (.collect .listInstances 1)),
    .move (.call 1), .move .dispatcher, .move (.call 1), .input .tick,
    .input (.request (.initiate .listInstances)), .move (.call 2), .move .dispatcher,
    .move (.call 2), .input .tick, .input (.request (.initiate .listInstances)), .move (.call 3),
    .move .dispatcher, .move (.call 3), .input .tick, .move .dispatcher, .move (.call 1)]

theorem expiry_aging : ∃ moments last,
    (Broker.fresh brief ⟨0, 0⟩ {} []).follow?
      (Simulated.Plan.service { operationDelay := ⟨50⟩ })
      aging = some (moments, last) ∧
    brief.validate = .ok brief ∧ last.shutdown = false ∧
    (moments.map (·.events)).drop 20 =
      [[.swept 1, .swept 2], [.answered 1 (.error .cancelled)]] ∧
    last.table.ids = [3] ∧
    Expiry (Simulated.Plan.service { operationDelay := ⟨50⟩ }) brief moments last := by
  have runs : ∃ moments last,
      (Broker.fresh brief ⟨0, 0⟩ {} []).follow?
        (Simulated.Plan.service { operationDelay := ⟨50⟩ })
        aging = some (moments, last) ∧
      last.shutdown = false ∧
      (moments.map (·.events)).drop 20 =
        [[.swept 1, .swept 2], [.answered 1 (.error .cancelled)]] ∧
      last.table.ids = [3] := ⟨_, _, rfl, rfl, rfl, rfl⟩
  obtain ⟨moments, last, followed, up, swept, spared⟩ := runs
  have valid : brief.validate = .ok brief := rfl
  exact ⟨moments, last, followed, valid, up, swept, spared,
    expiry_of_trace valid (.of_follow? followed) up⟩

end InstanceBroker
