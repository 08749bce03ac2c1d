import InstanceBroker.Broker.Settle

namespace InstanceBroker.Broker

variable {World Task : Type} (broker : Broker World Task)

@[simp] theorem mapRun_frame (id : TransactionId) (change : Run Task → Run Task) :
    (broker.mapRun id change).config = broker.config ∧
    (broker.mapRun id change).thrownAway = broker.thrownAway ∧
    (broker.mapRun id change).clock = broker.clock ∧
    (broker.mapRun id change).shutdown = broker.shutdown ∧
    (broker.mapRun id change).reachable = broker.reachable ∧
    (broker.mapRun id change).dispatcher = broker.dispatcher ∧
    (broker.mapRun id change).queue = broker.queue ∧
    (broker.mapRun id change).table = broker.table ∧
    (broker.mapRun id change).calls = broker.calls ∧
    (broker.mapRun id change).runs.length = broker.runs.length := by
  cases id <;> simp [mapRun]

@[simp] theorem run?_mapRun (id other : TransactionId) (change : Run Task → Run Task) :
    (broker.mapRun id change).run? other =
      if other = id then (broker.run? id).map change else broker.run? other := by
  cases id with
  | zero => cases other <;> simp [mapRun, run?]
  | succ n =>
    cases other with
    | zero => simp [run?]
    | succ m =>
      simp only [run?, mapRun, List.getElem?_modify]
      by_cases equal : n = m
      · simp [equal]
      · simp [equal, Ne.symm equal]

theorem run?_isSome_iff (id : TransactionId) :
    (broker.run? id).isSome ↔ 0 < id ∧ id ≤ broker.runs.length := by
  cases id with
  | zero => simp [run?]
  | succ n =>
    rw [run?, Option.isSome_iff_ne_none, Ne, List.getElem?_eq_none_iff, Nat.not_le]
    exact ⟨fun within => ⟨Nat.succ_pos n, within⟩, And.right⟩

theorem run?_congr {other : Broker World Task} (runs : other.runs = broker.runs)
    (id : TransactionId) : other.run? id = broker.run? id := by
  cases id with
  | zero => rfl
  | succ n => simp only [run?, runs]

@[simp] theorem run?_setPhase (call : CallId) (phase : Call.Phase) (id : TransactionId) :
    (broker.setPhase call phase).run? id = broker.run? id := broker.run?_congr rfl id

@[simp] theorem run?_withTable (table : Table) (id : TransactionId) :
    { broker with table }.run? id = broker.run? id := broker.run?_congr rfl id

@[simp] theorem run?_signal (id other : TransactionId) :
    (broker.signal id).run? other =
      if other = id then (broker.run? id).map ({ · with cancelled := true })
      else broker.run? other := broker.run?_mapRun id other _

theorem run?_discard (id other : TransactionId) :
    (broker.discard id).run? other =
      if other = id then (broker.run? id).map ({ · with cancelled := true })
      else broker.run? other := by
  rw [discard, run?_withTable, run?_signal]

@[simp] theorem calls_setPhase (call other : CallId) (phase : Call.Phase) :
    (broker.setPhase call phase).calls[other]? =
      if other = call then (broker.calls[call]?).map ({ · with phase })
      else broker.calls[other]? := by
  simp only [setPhase, List.getElem?_modify]
  by_cases equal : call = other
  · simp [equal]
  · simp [equal, Ne.symm equal]

theorem tell_cases (call : CallId) (reply : DispatcherReply) :
    (∃ request, broker.calls[call]? = some { request, phase := .awaiting } ∧
      broker.tell call reply = (broker.setPhase call (.told reply), true)) ∨
    ((∀ waiting, broker.calls[call]? = some waiting → waiting.phase ≠ .awaiting) ∧
      broker.tell call reply = (broker, false)) := by
  unfold tell
  split
  · rename_i found; exact .inl ⟨_, found, rfl⟩
  · rename_i missing
    refine .inr ⟨?_, rfl⟩
    rintro ⟨request, phase⟩ found rfl
    exact missing _ found

theorem tell_frame (call : CallId) (reply : DispatcherReply) :
    (broker.tell call reply).1 = { broker with calls := (broker.tell call reply).1.calls } := by
  obtain ⟨_, _, told⟩ | ⟨_, told⟩ := broker.tell_cases call reply
  · rw [told]
    rfl
  · rw [told]

theorem mapRun_eq_const {id : TransactionId} {run : Run Task} (found : broker.run? id = some run)
    (change : Run Task → Run Task) :
    broker.mapRun id change = broker.mapRun id fun _ => change run := by
  cases id with
  | zero => rfl
  | succ n =>
    simp only [mapRun, Broker.mk.injEq, true_and, and_true]
    refine List.ext_getElem? fun m => ?_
    simp only [List.getElem?_modify]
    split
    · subst_vars; simp only [run?] at found; simp [found]
    · rfl

theorem mapRun_mapRun (id : TransactionId) (first second : Run Task → Run Task) :
    (broker.mapRun id first).mapRun id second = broker.mapRun id (second ∘ first) := by
  cases id with
  | zero => rfl
  | succ n => simp [mapRun, List.modify_modify_eq]

theorem foldl_signal_frame (ids : List TransactionId) :
    ids.foldl signal broker = { broker with runs := (ids.foldl signal broker).runs } ∧
      (ids.foldl signal broker).runs.length = broker.runs.length := by
  induction ids generalizing broker with
  | nil => exact ⟨rfl, rfl⟩
  | cons id ids ih =>
    have first : broker.signal id = { broker with runs := (broker.signal id).runs } := by
      cases id <;> rfl
    simp only [List.foldl_cons]
    rw [(ih (broker.signal id)).1, (ih (broker.signal id)).2, first]
    exact ⟨rfl, (broker.mapRun_frame id _).2.2.2.2.2.2.2.2.2⟩

theorem run?_foldl_signal (ids : List TransactionId) (id : TransactionId) :
    (ids.foldl signal broker).run? id =
      if id ∈ ids then (broker.run? id).map ({ · with cancelled := true })
      else broker.run? id := by
  induction ids generalizing broker with
  | nil => simp
  | cons first ids ih =>
    simp only [List.foldl_cons, ih, signal, run?_mapRun, List.mem_cons]
    by_cases equal : id = first
    · by_cases among : first ∈ ids <;> simp [equal, among, Function.comp_def]
    · simp [equal]

theorem foldl_discard (ids : List TransactionId) :
    ids.foldl discard broker =
      { ids.foldl signal broker with table := ids.foldl Table.erase broker.table } := by
  have commutes (broker : Broker World Task) (table : Table) (ids : List TransactionId) :
      ids.foldl signal { broker with table } = { ids.foldl signal broker with table } := by
    induction ids generalizing broker with
    | nil => rfl
    | cons id ids ih =>
      have first : ({ broker with table }).signal id = { broker.signal id with table } := by
        cases id <;> rfl
      rw [List.foldl_cons, first, ih, List.foldl_cons]
  induction ids generalizing broker with
  | nil => rfl
  | cons id ids ih =>
    rw [List.foldl_cons, ih, discard, commutes]
    rfl

theorem run?_stop (id : TransactionId) :
    broker.stop.1.run? id = if id ∈ broker.table.ids then
      (broker.run? id).map ({ · with cancelled := true }) else broker.run? id := by
  rw [← run?_foldl_signal]
  exact (broker.table.ids.foldl signal broker).run?_congr rfl id

theorem run?_sweep (ttl : Duration) (due : Nat) (id : TransactionId) :
    (broker.sweep ttl due).1.run? id = if id ∈ broker.table.expired ttl broker.clock then
      (broker.run? id).map ({ · with cancelled := true }) else broker.run? id := by
  rw [← run?_foldl_signal]
  refine ((broker.table.expired ttl broker.clock).foldl signal broker).run?_congr ?_ id
  simp only [sweep, foldl_discard]

theorem accepts_of_running {broker : Broker World Task} {due : Nat}
    (running : broker.dispatcher = .running due) : broker.dispatcher.accepts = true := by
  rw [running]
  rfl

theorem receive_frame (input : Input) :
    broker.receive input = { broker with
      clock := (broker.receive input).clock
      shutdown := (broker.receive input).shutdown
      reachable := (broker.receive input).reachable
      dispatcher := (broker.receive input).dispatcher
      calls := (broker.receive input).calls } := by
  cases input with
  | request => simp only [receive]; split <;> rfl
  | startDispatcher => simp only [receive, startDispatcher]; split <;> rfl
  | dropDispatcher => simp only [receive, dropDispatcher]; split <;> rfl
  | tick | shutdown | close | abandon => rfl

end InstanceBroker.Broker

namespace InstanceBroker.Table

theorem find?_foldl_erase (table : Table) (ids : List TransactionId) (id : TransactionId) :
    (ids.foldl erase table).find? id = if id ∈ ids then none else table.find? id := by
  induction ids generalizing table with
  | nil => simp
  | cons first ids ih =>
    rw [List.foldl_cons, ih, find?_erase]
    by_cases among : id ∈ ids <;> by_cases equal : id = first <;> simp [among, equal]

end InstanceBroker.Table
