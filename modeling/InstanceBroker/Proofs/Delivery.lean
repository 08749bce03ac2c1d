import InstanceBroker.Proofs.Production
import InstanceBroker.Service.Simulated

namespace InstanceBroker

variable {World Task : Type} {service : Service World Task}

theorem mem_filterMap_took {α : Type}
    {pick : CallId → TransactionId → ResultValue → Option α} {events : List Event}
    {item : α} :
    (item ∈ events.filterMap fun
      | .took caller id value => pick caller id value
      | _ => none) ↔
      ∃ caller id value,
        .took caller id value ∈ events ∧ pick caller id value = some item := by
  rw [List.mem_filterMap]
  constructor
  · rintro ⟨event, among, found⟩
    cases event with
    | took caller id value => exact ⟨caller, id, value, among, found⟩
    | _ => cases found
  · rintro ⟨caller, id, value, among, found⟩
    exact ⟨_, among, found⟩

def takes (id : TransactionId) (events : List Event) : List (CallId × ResultValue) :=
  events.filterMap fun
    | .took caller transaction value => if transaction = id then some (caller, value) else none
    | _ => none

@[simp] theorem takes_append (id : TransactionId) (first later : List Event) :
    takes id (first ++ later) = takes id first ++ takes id later := by simp [takes]

theorem mem_takes {id : TransactionId} {events : List Event} {caller : CallId}
    {value : ResultValue} :
    (caller, value) ∈ takes id events ↔ .took caller id value ∈ events := by
  apply mem_filterMap_took.trans
  constructor
  · rintro ⟨other, transaction, taken, among, found⟩
    obtain ⟨rfl, rfl, rfl⟩ : transaction = id ∧ other = caller ∧ taken = value := by
      simpa using found
    exact among
  · intro among
    exact ⟨_, _, _, among, if_pos rfl⟩

theorem values_takes (id : TransactionId) (events : List Event) :
    (takes id events).map (·.2) = events.filterMap (·.taken? id) := by
  simp only [takes, List.map_filterMap]
  congr 1
  funext event
  cases event with
  | took caller transaction value =>
    simp only [Event.taken?]
    split <;> rfl
  | _ => rfl

theorem takes_of_untaken {id : TransactionId} {events : List Event}
    (untaken : events.filterMap (·.taken? id) = []) : takes id events = [] := by
  rw [← values_takes] at untaken
  exact List.map_eq_nil_iff.mp untaken

def takenBy (caller : CallId) (events : List Event) : List (TransactionId × ResultValue) :=
  events.filterMap fun
    | .took other transaction value => if other = caller then some (transaction, value) else none
    | _ => none

@[simp] theorem takenBy_append (caller : CallId) (first later : List Event) :
    takenBy caller (first ++ later) = takenBy caller first ++ takenBy caller later := by
  simp [takenBy]

theorem mem_takenBy {id : TransactionId} {events : List Event} {caller : CallId}
    {value : ResultValue} :
    (id, value) ∈ takenBy caller events ↔ .took caller id value ∈ events := by
  apply mem_filterMap_took.trans
  constructor
  · rintro ⟨other, transaction, taken, among, found⟩
    obtain ⟨rfl, rfl, rfl⟩ : other = caller ∧ transaction = id ∧ taken = value := by
      simpa using found
    exact among
  · intro among
    exact ⟨_, _, _, among, if_pos rfl⟩

theorem took_of_sole {id : TransactionId} {events : List Event} {caller : CallId}
    {value : ResultValue} (sole : takenBy caller events = [(id, value)]) :
    .took caller id value ∈ events := by
  apply mem_takenBy.mp
  rw [sole]
  exact List.mem_singleton.mpr rfl

theorem takenBy_quiet {caller : CallId} {events : List Event}
    (quiet : ∀ event ∈ events, event.call? ≠ some caller) : takenBy caller events = [] := by
  simp only [takenBy, List.filterMap_eq_nil_iff]
  intro event among
  have apart := quiet event among
  cases event with
  | took other transaction value => exact if_neg fun equal => apart (congrArg some equal)
  | _ => rfl

theorem count_takes_le (id : TransactionId) (caller : CallId) (events : List Event) :
    ((takes id events).map (·.1)).count caller ≤ (takenBy caller events).length := by
  simp only [takes, takenBy, List.map_filterMap, List.count, List.countP_filterMap,
    List.length_filterMap_eq_countP]
  refine List.countP_mono_left fun event among counted => ?_
  cases event with
  | took other transaction value =>
    by_cases equal : other = caller
    · simp [equal]
    · revert counted
      by_cases same : transaction = id <;> simp [equal, same]
  | _ => simp at counted

def Fault.isBarren (id : TransactionId) (fault : Fault) : Prop :=
  fault = .cancelled ∨ fault = .unknownTransaction id ∨ fault = .dispatcherClosed

/-- What a call may have taken so far, and that it answers with what it took. -/
def Call.Account (call : Call) (taken : List (TransactionId × ResultValue)) : Prop :=
  match call.request, call.phase with
  | .collect kind id, .completing outcome =>
    ∃ value, taken = [(id, value)] ∧ outcome = (kind.judge id value).outcome
  | .collect kind id, .answered outcome =>
    (∃ value, taken = [(id, value)] ∧ outcome = (kind.judge id value).outcome) ∨
      taken = [] ∧ ∃ fault, outcome = .error fault ∧ fault.isBarren id
  | .collect _ id, .abandoned => taken = [] ∨ ∃ value, taken = [(id, value)]
  | _, _ => taken = []

theorem Call.Account.taken {call : Call} {taken : List (TransactionId × ResultValue)}
    (account : call.Account taken) :
    taken = [] ∨ ∃ kind id value, call.request = .collect kind id ∧ taken = [(id, value)] ∧
      (call.phase = .completing (kind.judge id value).outcome ∨
        call.phase = .answered (kind.judge id value).outcome ∨ call.phase = .abandoned) := by
  obtain ⟨request, phase⟩ := call
  cases request with
  | collect kind id =>
    cases phase with
    | completing outcome =>
      obtain ⟨value, took, rfl⟩ := account
      exact .inr ⟨kind, id, value, rfl, took, .inl rfl⟩
    | answered outcome =>
      rcases account with ⟨value, took, rfl⟩ | ⟨nothing, _⟩
      · exact .inr ⟨kind, id, value, rfl, took, .inr (.inl rfl)⟩
      · exact .inl nothing
    | abandoned =>
      rcases account with nothing | ⟨value, took⟩
      · exact .inl nothing
      · exact .inr ⟨kind, id, value, rfl, took, .inr (.inr rfl)⟩
    | submitting | awaiting | told | reading => exact .inl account
  | initiate | cancel | listTransactions => exact .inl account

namespace Broker

variable {broker after : Broker World Task} {turn : Turn World} {events : List Event}

theorem Advances.buffer {id : TransactionId} {run next : Run Task} {world : World}
    (advances : Advances service broker id run world next events) :
    next.buffer = run.buffer ++ writtenTo id events ∧ events.filterMap (·.taken? id) = [] ∧
      (run.buffer.length ≤ broker.capacity → next.buffer.length ≤ broker.capacity) := by
  cases advances with
  | accepted _ _ _ room | delivered _ _ _ room =>
    refine ⟨by simp [writtenTo, Event.written?], rfl, fun _ => ?_⟩
    rw [List.length_append]
    exact room
  | proceeded | reported | dropped | finished | refused | undelivered =>
    simp [writtenTo, Event.written?, Event.taken?]

/-- What is buffered and what is written in a turn is taken in that turn or buffered after it. -/
theorem buffer_step (formed : broker.WellFormed)
    (taken : broker.turn? service turn = some (after, events)) (id : TransactionId) :
    broker.buffered id ++ writtenTo id events =
        (takes id events).map (·.2) ++ after.buffered id ∧
      ((broker.buffered id).length ≤ broker.capacity →
        (after.buffered id).length ≤ broker.capacity) := by
  rw [values_takes]
  cases found : broker.run? id with
  | none =>
    -- A run that begins has an empty buffer.
    obtain ⟨untaken, unwritten, begun⟩ := run_begun taken formed.numbered found
    have before : broker.buffered id = [] := by simp [buffered, found]
    have later : after.buffered id = [] := by
      cases begun with
      | missing missing => simp [buffered, missing]
      | opened _ _ begun | orphaned _ _ begun => simp [buffered, begun, opened]
    rw [before, later, untaken, writtenTo, unwritten]
    exact ⟨rfl, fun bounded => bounded⟩
  | some run =>
    obtain ⟨next, there, step⟩ := run_step taken found
    have before : broker.buffered id = run.buffer := by simp [buffered, found]
    have later : after.buffered id = next.buffer := by simp [buffered, there]
    rw [before, later, writtenTo]
    cases step with
    | kept _ untaken unwritten =>
      rw [untaken, unwritten, List.append_nil]
      exact ⟨rfl, fun bounded => bounded⟩
    | signalled _ untaken unwritten =>
      rw [untaken, unwritten, List.append_nil]
      exact ⟨rfl, fun bounded => bounded⟩
    | advanced advances =>
      obtain ⟨grown, untaken, bounded⟩ := advances.buffer
      rw [untaken, grown]
      exact ⟨rfl, grown ▸ bounded⟩
    | read _ _ _ ready untaken unwritten =>
      rw [untaken, unwritten, ready]
      refine ⟨by simp, fun bounded => ?_⟩
      exact Nat.le_of_succ_le bounded

theorem account_progress (formed : broker.WellFormed) {caller : CallId} {call : Call}
    {phase : Call.Phase} {actions : List Action}
    {reads : Option (TransactionId × List ResultValue)}
    {before : List (TransactionId × ResultValue)} (found : broker.calls[caller]? = some call)
    (account : call.Account before)
    (progresses : Progresses broker caller call phase actions reads events) :
    ({ call with phase } : Call).Account (before ++ takenBy caller events) := by
  have idle (quiet : takenBy caller events = []) : before ++ takenBy caller events = before := by
    rw [quiet, List.append_nil]
  -- A call that has taken nothing has nothing but a fault to answer with.
  have barren {request : Request} {fault : Fault} (nothing : before = [])
      (cause : ∀ kind id, request = .collect kind id → fault.isBarren id) :
      ({ request, phase := .answered (.error fault) } : Call).Account before := by
    cases request with
    | collect kind id => exact .inr ⟨nothing, fault, rfl, cause kind id rfl⟩
    | initiate | cancel | listTransactions => exact nothing
  cases progresses with
  | @preempted request phase down open_ =>
    rw [idle rfl]
    refine barren ?_ fun _ _ _ => .inl rfl
    rcases open_ with rfl | rfl | ⟨reply, rfl⟩ <;> cases request <;> exact account
  | @closed request up gone =>
    rw [idle rfl]
    refine barren ?_ fun _ _ _ => .inr (.inr rfl)
    cases request <;> exact account
  | cancelQueued =>
    rw [idle rfl]
    exact account
  | @queued request up accepts room replied =>
    rw [idle rfl]
    cases request <;> exact account
  | @opened request up =>
    rw [idle rfl]
    cases request <;> exact account
  | @learned request reply outcome up known =>
    rw [idle rfl]
    cases request with
    | collect kind id =>
      have nothing : before = [] := account
      have sound := formed.sound caller _ found
      cases reply with
      | granted => cases known
      | refused fault =>
        cases known
        obtain ⟨_, _, asked, cause⟩ := sound
        cases asked
        exact .inr ⟨nothing, fault, rfl, cause.elim .inl fun unknown => .inr (.inl unknown)⟩
      | opened =>
        obtain ⟨_, asked⟩ := sound
        cases asked
      | listing => cases sound
    | initiate | cancel | listTransactions => exact account
  | @stranded kind id run there closed =>
    rw [idle rfl]
    exact barren account fun _ _ _ => .inl rfl
  | @tookProgress kind id run value rest there up uncancelled ready keeps =>
    have nothing : before = [] := account
    exact .inl ⟨value, by simp [nothing, takenBy], rfl⟩
  | @tookLast kind id run value rest there up uncancelled ready releases =>
    have nothing : before = [] := account
    exact ⟨value, by simp [nothing, takenBy], rfl⟩
  | unreleased | released =>
    rw [idle rfl]
    exact .inl account

theorem account_step (formed : broker.WellFormed) {caller : CallId} {call : Call}
    {phase : Call.Phase} {before : List (TransactionId × ResultValue)}
    (found : broker.calls[caller]? = some call) (account : call.Account before)
    (step : CallStep broker after caller call turn events phase) :
    ({ call with phase } : Call).Account (before ++ takenBy caller events) := by
  obtain ⟨request, old⟩ := call
  cases step with
  | kept _ quiet =>
    rw [takenBy_quiet quiet, List.append_nil]
    exact account
  | told waits _ _ _ _ quiet =>
    rw [takenBy_quiet quiet, List.append_nil]
    cases waits
    cases request <;> exact account
  | progressed progresses => exact account_progress formed found account progresses
  | abandoned pending =>
    have nothing : takenBy caller [] = [] := rfl
    rw [nothing, List.append_nil]
    cases request with
    | collect kind id =>
      cases old with
      | completing outcome =>
        obtain ⟨value, took, _⟩ := account
        exact .inr ⟨value, took⟩
      | answered | abandoned => cases pending
      | submitting | awaiting | told | reading => exact .inl account
    | initiate | cancel | listTransactions => exact account

theorem quiet_missing {caller : CallId} (taken : broker.turn? service turn = some (after, events))
    (missing : broker.calls[caller]? = none) :
    ∀ event ∈ events, event.call? ≠ some caller := by
  cases turns_of_turn? taken with
  | dispatched running dispatches =>
    cases dispatches with
    | stopped => simp [Event.call?]
    | handled up head handles =>
      exact List.forall_mem_cons.mpr ⟨(fun equal => by cases equal), handles.quiet caller⟩
    | swept => simp [Event.call?]
  | advanced _ advances => cases advances <;> simp [Event.call?]
  | progressed asks progresses =>
    refine progresses.quiet ?_
    rintro rfl
    rw [missing] at asks
    cases asks
  | received | changed => simp

end Broker

variable {config : Config} {origin : Timestamp} {world : World} {thrownAway : List TransactionId}
  {moments : List (Moment World Task)} {last : Broker World Task}

theorem Trace.account (trace : Trace service (.fresh config origin world thrownAway) moments last)
    (caller : CallId) :
    (last.calls[caller]? = none → takenBy caller (history moments) = []) ∧
      ∀ call, last.calls[caller]? = some call →
        call.Account (takenBy caller (history moments)) := by
  induction trace with
  | nil => exact ⟨fun _ => rfl, fun call found => by cases found⟩
  | @snoc moments broker after turn events earlier taken ih =>
    simp only [history_append, history_singleton, takenBy_append]
    cases before : broker.calls[caller]? with
    | some call =>
      obtain ⟨phase, there, step⟩ := Broker.call_step taken before
      rw [there]
      refine ⟨nofun, fun _ same => ?_⟩
      cases same
      exact Broker.account_step earlier.wellFormed before (ih.2 call before) step
    | none =>
      rw [ih.1 before, takenBy_quiet (Broker.quiet_missing taken before)]
      refine ⟨fun _ => rfl, fun call found => ?_⟩
      rcases Broker.call_origin taken found with ⟨old, there, _⟩ | ⟨_, _, submitting, _⟩
      · rw [before] at there
        cases there
      · rw [Call.Account, submitting]
        cases call.request <;> rfl

theorem Trace.call_of_took
    (trace : Trace service (.fresh config origin world thrownAway) moments last)
    {caller : CallId} {id : TransactionId} {value : ResultValue}
    (took : .took caller id value ∈ history moments) :
    ∃ kind phase, last.calls[caller]? = some { request := .collect kind id, phase } ∧
      (phase = .completing (kind.judge id value).outcome ∨
        phase = .answered (kind.judge id value).outcome ∨ phase = .abandoned) := by
  have mine := mem_takenBy.mpr took
  obtain ⟨missing, account⟩ := trace.account caller
  cases found : last.calls[caller]? with
  | none =>
    rw [missing found] at mine
    cases mine
  | some call =>
    obtain ⟨request, phase⟩ := call
    rcases (account _ found).taken with nothing | ⟨kind, _, _, asked, sole, reached⟩
    · rw [nothing] at mine
      cases mine
    · cases asked
      rw [sole] at mine
      cases List.mem_singleton.mp mine
      exact ⟨kind, phase, rfl, reached⟩

theorem Trace.config_eq {start : Broker World Task} (trace : Trace service start moments last) :
    last.config = start.config := by
  induction trace with
  | nil => rfl
  | snoc _ taken ih => exact (Broker.settings_step taken).1.trans ih

theorem Trace.roomy (trace : Trace service (.fresh config origin world thrownAway) moments last)
    (valid : config.validate = .ok config) : 0 < last.config.actionQueueCapacity := by
  have same : last.config = config := trace.config_eq
  rw [same]
  exact (Config.usable_of_validate valid).1

theorem Trace.thrownAway_eq {start : Broker World Task} (trace : Trace service start moments last) :
    last.thrownAway = start.thrownAway := by
  induction trace with
  | nil => rfl
  | snoc _ taken ih => exact (Broker.settings_step taken).2.1.trans ih

/-- Every value of a transaction is delivered once and in order. -/
structure Delivered (service : Service World Task) (config : Config)
    (moments : List (Moment World Task)) (last : Broker World Task)
    (id : TransactionId) : Prop where
  produced : (writtenTo id (history moments)).Sublist (products service id moments)
  conserved : (takes id (history moments)).map (·.2) ++ last.buffered id =
    writtenTo id (history moments)
  bounded : (last.buffered id).length ≤ config.resultBuffer
  once : ((takes id (history moments)).map (·.1)).Nodup
  received : ∀ caller value, (caller, value) ∈ takes id (history moments) →
    ∃ kind phase, last.calls[caller]? = some { request := .collect kind id, phase } ∧
      (phase = .completing (kind.judge id value).outcome ∨
        phase = .answered (kind.judge id value).outcome ∨ phase = .abandoned)
  /-- A call answers with the one value that it took, or it took none and fails. -/
  returned : ∀ caller kind outcome,
    last.calls[caller]? = some { request := .collect kind id, phase := .answered outcome } →
    (∃ value, (caller, value) ∈ takes id (history moments) ∧
      outcome = (kind.judge id value).outcome) ∨
    caller ∉ (takes id (history moments)).map (·.1) ∧
      ∃ fault, outcome = .error fault ∧ fault.isBarren id

theorem Trace.production
    (trace : Trace service (.fresh config origin world thrownAway) moments last)
    (id : TransactionId) :
    (writtenTo id (history moments) ++ last.held id).Sublist (products service id moments) := by
  induction trace with
  | nil =>
    have unheld :
        (Broker.fresh config origin world thrownAway : Broker World Task).held id = [] := by
      cases id <;> rfl
    exact unheld ▸ .refl _
  | @snoc moments broker after turn events earlier taken ih =>
    have step := (Broker.production_step earlier.wellFormed taken id).1
    simp only [history_append, history_singleton, writtenTo_append, products_append,
      products_singleton, List.append_assoc]
    have kept := step.append_left (writtenTo id (history moments))
    rw [← List.append_assoc (writtenTo id (history moments)) (broker.held id)] at kept
    exact kept.trans (ih.append_right _)

theorem Trace.conservation
    (trace : Trace service (.fresh config origin world thrownAway) moments last)
    (id : TransactionId) :
    (takes id (history moments)).map (·.2) ++ last.buffered id = writtenTo id (history moments) ∧
      (last.buffered id).length ≤ last.capacity := by
  induction trace with
  | nil =>
    have empty :
        (Broker.fresh config origin world thrownAway : Broker World Task).buffered id = [] := by
      cases id <;> rfl
    rw [empty]
    exact ⟨rfl, Nat.zero_le _⟩
  | @snoc moments broker after turn events earlier taken ih =>
    obtain ⟨balance, bounded⟩ := Broker.buffer_step earlier.wellFormed taken id
    have capacity : after.capacity = broker.capacity := by
      rw [Broker.capacity, (Broker.settings_step taken).1, Broker.capacity]
    refine ⟨?_, capacity ▸ bounded ih.2⟩
    simp only [history_append, history_singleton, writtenTo_append, takes_append, List.map_append]
    rw [← ih.1, List.append_assoc, List.append_assoc, balance]

/-- However the steps of the dispatcher, the runs and the calls are mixed, and whoever gives up
waiting, the calls get exactly what was written, first come first served. -/
theorem delivered (room : 0 < config.resultBuffer)
    (trace : Trace service (.fresh config origin world thrownAway) moments last)
    (id : TransactionId) : Delivered service config moments last id where
  produced := by
    have written : (writtenTo id (history moments)).Sublist
        (writtenTo id (history moments) ++ last.held id) := List.sublist_append_left ..
    exact written.trans (trace.production id)
  conserved := (trace.conservation id).1
  bounded := by
    have bounded := (trace.conservation id).2
    have same : last.capacity = config.resultBuffer := by
      rw [Broker.capacity, trace.config_eq]
      exact Nat.max_eq_left room
    rw [same] at bounded
    exact bounded
  once := by
    rw [List.nodup_iff_count]
    intro caller
    refine Nat.le_trans (count_takes_le id caller (history moments)) ?_
    obtain ⟨missing, account⟩ := trace.account caller
    cases found : last.calls[caller]? with
    | none => simp [missing found]
    | some call =>
      rcases (account call found).taken with nothing | ⟨_, _, _, _, took, _⟩
      · simp [nothing]
      · simp [took]
  received := by
    intro caller value took
    have mine := mem_takenBy.mpr (mem_takes.mp took)
    obtain ⟨missing, account⟩ := trace.account caller
    cases found : last.calls[caller]? with
    | none =>
      rw [missing found] at mine
      cases mine
    | some call =>
      rcases (account call found).taken with nothing | ⟨kind, _, _, asked, took, reached⟩
      · rw [nothing] at mine
        cases mine
      · rw [took] at mine
        cases List.mem_singleton.mp mine
        obtain ⟨request, phase⟩ := call
        cases asked
        exact ⟨kind, phase, rfl, reached⟩
  returned := by
    intro caller kind outcome found
    rcases (trace.account caller).2 _ found with ⟨value, mine, answered⟩ | ⟨nothing, failed⟩
    · refine .inl ⟨value, ?_, answered⟩
      refine mem_takes.mpr (mem_takenBy.mp ?_)
      rw [mine]
      exact List.mem_singleton.mpr rfl
    · refine .inr ⟨fun among => ?_, failed⟩
      obtain ⟨⟨_, value⟩, took, rfl⟩ := List.mem_map.mp among
      have mine := mem_takenBy.mpr (mem_takes.mp took)
      rw [nothing] at mine
      cases mine

/-- Three calls wait for the reports of a creation. The last of them comes first, one gives up, and
the end of the creation is left to a fourth. -/
def sharing : List (Turn Catalogue) :=
  [.input .startDispatcher, .input (.request (.initiate (.create { name := "vm" }))),
    .move (.call 0), .move .dispatcher, .move (.call 0), .input (.request (.collect .create 1)),
    .input (.request (.collect .create 1)), .input (.request (.collect .create 1)),
    .move (.call 1), .move (.call 2), .move (.call 3), .move .dispatcher, .move .dispatcher,
    .move .dispatcher, .move (.call 1), .move (.call 2), .move (.call 3), .move (.run 1),
    .move (.run 1), .move (.run 1), .move (.run 1), .move (.run 1), .move (.run 1),
    .move (.call 3), .input (.abandon 2), .move (.call 1), .move (.run 1), .move (.run 1),
    .move (.run 1), .move (.run 1), .input (.request (.collect .create 1)), .move (.call 4),
    .move .dispatcher, .move (.call 4), .move (.call 4), .move (.call 4)]

theorem delivered_sharing : ∃ moments last,
    (Broker.fresh { resultBuffer := 2 } ⟨0, 0⟩ {} []).follow?
      (Simulated.Plan.service { creationSteps := ["fetch", "boot"] }) sharing =
        some (moments, last) ∧
    0 < Config.resultBuffer { resultBuffer := 2 } ∧
    takes 1 (history moments) =
      [(3, .progress (.progress "fetch")), (1, .progress (.progress "boot")),
        (4, .final (.created (.complete "vm")))] ∧
    last.calls.map (·.phase) = [.answered (.ok (.started 1)),
      .answered (.ok (.created (.progress "boot"))), .abandoned,
      .answered (.ok (.created (.progress "fetch"))),
      .answered (.ok (.created (.complete "vm")))] ∧
    Delivered (Simulated.Plan.service { creationSteps := ["fetch", "boot"] })
      { resultBuffer := 2 } moments last 1 := by
  have runs : ∃ moments last,
      (Broker.fresh { resultBuffer := 2 } ⟨0, 0⟩ {} []).follow?
        (Simulated.Plan.service { creationSteps := ["fetch", "boot"] }) sharing =
          some (moments, last) ∧
      takes 1 (history moments) = [(3, .progress (.progress "fetch")),
        (1, .progress (.progress "boot")), (4, .final (.created (.complete "vm")))] ∧
      last.calls.map (·.phase) = [.answered (.ok (.started 1)),
        .answered (.ok (.created (.progress "boot"))), .abandoned,
        .answered (.ok (.created (.progress "fetch"))),
        .answered (.ok (.created (.complete "vm")))] :=
    ⟨_, _, rfl, rfl, rfl⟩
  obtain ⟨moments, last, followed, took, heard⟩ := runs
  exact ⟨moments, last, followed, by decide, took, heard,
    delivered (by decide) (.of_follow? followed) 1⟩

end InstanceBroker
