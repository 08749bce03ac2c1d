import InstanceBroker.Proofs.Isolation.Hidden

namespace InstanceBroker

variable {World Task : Type} {service : Service World Task}

def Move.renamed (rename : CallId → CallId) : Move → Move
  | .call caller => .call (rename caller)
  | .dispatcher => .dispatcher
  | .run transaction => .run transaction

namespace Broker

variable {broker after : Broker World Task} {id : TransactionId} {wipe : World → World}
  {events : List Event}

/-- What a step shows besides the transaction: what it leaves and the answers it gives. -/
def sight (broker : Broker World Task) (id : TransactionId) (wipe : World → World)
    (step : Step World Task) : Broker World Task × List (CallId × Outcome) :=
  (step.1.besides id wipe, broker.answersBesides id step.2)

def bareSight (id : TransactionId) (wipe : World → World) (step : Step World Task) :
    Broker World Task × List (CallId × Outcome) :=
  (step.1.blank id wipe, answers step.2)

/-- Actions are taken, but there is no room for them, though there would be without those on behalf
of the transaction. -/
structure Crowded (broker : Broker World Task) (id : TransactionId) (wipe : World → World) :
    Prop where
  up : broker.shutdown = false
  accepts : broker.dispatcher.accepts = true
  full : broker.hasRoom = false
  room : (broker.besides id wipe).hasRoom = true

theorem blank_besides (separates : service.Separates id wipe) :
    (broker.besides id wipe).blank id wipe = broker.besides id wipe := by
  have again : (Run.blank : Run Task → Run Task) ∘ Run.blank = Run.blank := rfl
  cases id with
  | zero => simp [besides, blank, mapRun, separates.again]
  | succ n => simp [besides, blank, mapRun, separates.again, List.modify_modify_eq, again]

theorem sight_eq (separates : service.Separates id wipe) {bare : Broker World Task}
    {events' : List Event} (leaves : bare = after.besides id wipe)
    (answered : answers events' = broker.answersBesides id events) :
    bareSight id wipe (bare, events') = broker.sight id wipe (after, events) := by
  rw [bareSight, sight, leaves, blank_besides separates, answered]

section Runs

theorem write?_besides {transaction : TransactionId} (apart : transaction ≠ id) (run : Run Task)
    (value : ResultValue) :
    (broker.besides id wipe).write? transaction run value =
      (broker.write? transaction run value).map
        fun written => ((written.1.1.besides id wipe, written.1.2), written.2) := by
  have capacity : (broker.besides id wipe).capacity = broker.capacity := by simp [capacity]
  simp only [write?, isCancelled_besides apart, isWanted_besides apart, capacity]
  split
  · rfl
  · split
    · simp only [Option.map_some, besides_mapRun apart]
    · rfl

theorem setRunPhase_besides {transaction : TransactionId} (apart : transaction ≠ id)
    (phase : Run.Phase Task) :
    (broker.besides id wipe).setRunPhase transaction phase =
      (broker.setRunPhase transaction phase).besides id wipe :=
  (besides_mapRun apart _).symm

theorem advanceRun?_besides (separates : service.Separates id wipe) {transaction : TransactionId}
    (apart : transaction ≠ id) :
    (broker.besides id wipe).advanceRun? service transaction =
      (broker.advanceRun? service transaction).map
        fun step => (step.1.besides id wipe, step.2) := by
  simp only [advanceRun?, run?_besides apart, Option.bind_eq_bind]
  cases broker.run? transaction with
  | none => rfl
  | some run =>
    simp only [Option.bind_some, isCancelled_besides apart, write?_besides apart]
    cases phase : run.phase with
    | working task =>
      have demand := separates.others
        { id := transaction, now := broker.clock, cancelled := broker.isCancelled transaction }
        run.operation broker.world task apart
      simp only [world_besides, besides_settings, demand]
      cases service.step
        { id := transaction, now := broker.clock, cancelled := broker.isCancelled transaction }
        run.operation broker.world task with
      | wait => rfl
      | proceed world next =>
        simp only [Demand.mapWorld, Option.map_some, ← setRunPhase_besides apart,
          besides_withWorld, besides_settings]
      | report progress next isCreate =>
        simp only [Demand.mapWorld, Option.map_some, ← setRunPhase_besides apart]
      | finish world outcome =>
        simp only [Demand.mapWorld]
        split <;> simp only [Option.map_some, ← setRunPhase_besides apart, besides_withWorld,
          besides_settings]
    | reporting value task =>
      simp only
      cases broker.write? transaction run value with
      | none => rfl
      | some written => simp only [Option.map_some, Option.bind_some, setRunPhase_besides apart]
    | delivering value =>
      simp only
      cases broker.write? transaction run value with
      | none => rfl
      | some written => simp only [Option.map_some, Option.bind_some, setRunPhase_besides apart]
    | ended => rfl

end Runs

section Calls

variable {caller : CallId} {call : Call}

theorem answersBesides_answered (found : broker.calls[caller]? = some call)
    (spares : call.spares id = true) (outcome : Outcome) :
    broker.answersBesides id [.answered caller outcome] = [(broker.place id caller, outcome)] := by
  simp [answersBesides, answers, found, spares]

theorem answer_besides (separates : service.Separates id wipe)
    (found : broker.calls[caller]? = some call) (spares : call.spares id = true)
    (outcome : Outcome) :
    bareSight id wipe ((broker.besides id wipe).answer (broker.place id caller) outcome) =
      broker.sight id wipe (broker.answer caller outcome) :=
  sight_eq separates (besides_setPhase found spares _).symm
    (answersBesides_answered found spares outcome).symm

theorem queueing_besides (found : broker.calls[caller]? = some call)
    (spares : call.spares id = true) {action : Action} (fair : action.spares id = true)
    (phase : Call.Phase) :
    { broker.besides id wipe with
        queue := (broker.besides id wipe).queue ++ [action.renamed (broker.place id)] }.setPhase
      (broker.place id caller) phase =
    ({ broker with queue := broker.queue ++ [action] }.setPhase caller phase).besides id wipe := by
  have queued : ({ broker with queue := broker.queue ++ [action] }).besides id wipe =
      { broker.besides id wipe with
        queue := (broker.besides id wipe).queue ++ [action.renamed (broker.place id)] } := by
    rw [besides_withQueue, List.filter_append, List.filter_cons_of_pos fair, List.map_append]
    rfl
  have there : ({ broker with queue := broker.queue ++ [action] }).calls[caller]? = some call :=
    found
  rw [besides_setPhase there spares, queued]
  rfl

theorem submit?_besides (separates : service.Separates id wipe)
    (found : broker.calls[caller]? = some call) (spares : call.spares id = true) :
    (broker.submit? caller call.request = none ∧ broker.Crowded id wipe) ∨
    ((broker.besides id wipe).submit? (broker.place id caller) call.request).map
        (bareSight id wipe) =
      (broker.submit? caller call.request).map (broker.sight id wipe) := by
  have fair : (call.request.action caller).spares id = true := by
    rw [Request.spares_action]
    exact spares
  have queued := @queueing_besides _ _ broker id wipe caller call found spares _ fair
  simp only [Request.renamed_action, besides_settings] at queued
  unfold submit?
  simp only [besides_settings]
  split
  · exact .inr (congrArg some (answer_besides separates found spares _))
  · rename_i up
    split
    · exact .inr (congrArg some (answer_besides separates found spares _))
    · rename_i accepts
      cases room : broker.hasRoom with
      | false =>
        cases room' : (broker.besides id wipe).hasRoom with
        | false => exact .inr rfl
        | true => exact .inl ⟨rfl, by simpa using up, by simpa using accepts, room, room'⟩
      | true =>
        right
        simp only [room_besides room, if_true]
        cases request : call.request with
        | cancel transaction =>
          rw [request] at queued
          exact congrArg some (sight_eq separates (queued (.answered (.ok .cancelRequested)))
            (answersBesides_answered found spares _).symm)
        | initiate | collect | listTransactions =>
          rw [request] at queued
          exact congrArg some (sight_eq separates (queued .awaiting) rfl)

theorem complete?_besides (separates : service.Separates id wipe)
    (found : broker.calls[caller]? = some call) (spares : call.spares id = true)
    {transaction : TransactionId} (apart : transaction ≠ id) (outcome : Outcome) :
    (broker.complete? caller transaction outcome = none ∧ broker.Crowded id wipe) ∨
    ((broker.besides id wipe).complete? (broker.place id caller) transaction outcome).map
        (bareSight id wipe) =
      (broker.complete? caller transaction outcome).map (broker.sight id wipe) := by
  unfold complete?
  simp only [besides_settings]
  split
  · exact .inr (congrArg some (answer_besides separates found spares _))
  · rename_i open_
    cases room : broker.hasRoom with
    | false =>
      cases room' : (broker.besides id wipe).hasRoom with
      | false => exact .inr rfl
      | true =>
        simp only [Bool.or_eq_true, Bool.not_eq_true', not_or, Bool.not_eq_true,
          Bool.not_eq_false] at open_
        exact .inl ⟨rfl, open_.1, open_.2, room, room'⟩
    | true =>
      right
      have fair : (Action.complete transaction).spares id = true := by
        simpa [Action.spares] using apart
      have queued := @queueing_besides _ _ broker id wipe caller call found spares _ fair
        (.answered outcome)
      simp only [besides_settings] at queued
      simp only [room_besides room, if_true]
      exact congrArg some (sight_eq separates queued (answersBesides_answered found spares _).symm)

theorem take?_besides (separates : service.Separates id wipe)
    (found : broker.calls[caller]? = some call) (spares : call.spares id = true)
    (kind : Operation.Kind) {transaction : TransactionId} (apart : transaction ≠ id) :
    ((broker.besides id wipe).take? (broker.place id caller) kind transaction).map
        (bareSight id wipe) =
      (broker.take? caller kind transaction).map (broker.sight id wipe) := by
  simp only [take?, run?_besides apart, besides_settings, Option.bind_eq_bind]
  cases broker.run? transaction with
  | none => rfl
  | some run =>
    simp only [Option.bind_some]
    split
    · exact congrArg some (answer_besides separates found spares _)
    · cases run.buffer with
      | nil =>
        simp only
        split
        · exact congrArg some (answer_besides separates found spares _)
        · rfl
      | cons value buffer =>
        have there :
            (broker.mapRun transaction ({ · with buffer })).calls[caller]? = some call := by
          rw [(broker.mapRun_frame ..).2.2.2.2.2.2.2.2.1, found]
        have moved (phase : Call.Phase) :
            ((broker.besides id wipe).mapRun transaction ({ · with buffer })).setPhase
                (broker.place id caller) phase =
              ((broker.mapRun transaction ({ · with buffer })).setPhase caller phase).besides
                id wipe := by
          rw [besides_setPhase there spares, place_mapRun, besides_mapRun apart]
        simp only
        split
        · exact congrArg some (sight_eq separates (moved _) rfl)
        · exact congrArg some (sight_eq separates (moved _)
            (answersBesides_answered found spares _).symm)

theorem advanceCall?_besides (separates : service.Separates id wipe)
    (found : broker.calls[caller]? = some call) (spares : call.spares id = true) :
    (broker.advanceCall? caller = none ∧ broker.Crowded id wipe) ∨
    ((broker.besides id wipe).advanceCall? (broker.place id caller)).map (bareSight id wipe) =
      (broker.advanceCall? caller).map (broker.sight id wipe) := by
  have there := @calls_besides _ _ broker id wipe _ _ found spares
  obtain ⟨request, phase⟩ := call
  simp only [advanceCall?, there, found, Option.bind_eq_bind, Option.bind_some, besides_settings]
  cases phase with
  | submitting => exact submit?_besides separates found spares
  | awaiting =>
    right
    simp only
    split
    · exact congrArg some (answer_besides separates found spares _)
    · rfl
  | told reply =>
    right
    simp only
    split
    · exact congrArg some (answer_besides separates found spares _)
    · cases reply with
      | opened | refused | listing =>
        exact congrArg some (answer_besides separates found spares _)
      | granted =>
        exact congrArg some (sight_eq separates (besides_setPhase found spares _).symm rfl)
  | reading =>
    cases request with
    | collect kind transaction =>
      have apart : transaction ≠ id := by simpa [Call.spares, Request.spares] using spares
      exact .inr (take?_besides separates found spares kind apart)
    | initiate | cancel | listTransactions => exact .inr rfl
  | completing outcome =>
    cases request with
    | collect kind transaction =>
      have apart : transaction ≠ id := by simpa [Call.spares, Request.spares] using spares
      exact complete?_besides separates found spares apart outcome
    | initiate | cancel | listTransactions => exact .inr rfl
  | answered | abandoned => exact .inr (by cases request <;> rfl)

end Calls

section Dispatcher

theorem besides_signal {transaction : TransactionId} (apart : transaction ≠ id) :
    (broker.signal transaction).besides id wipe = (broker.besides id wipe).signal transaction :=
  besides_mapRun apart _

theorem besides_foldl_signal (ids : List TransactionId) :
    (ids.foldl signal broker).besides id wipe =
      (ids.filter (· ≠ id)).foldl signal (broker.besides id wipe) := by
  induction ids generalizing broker with
  | nil => rfl
  | cons first ids ih =>
    rw [List.foldl_cons, ih]
    by_cases own : first = id
    · rw [List.filter_cons_of_neg (by simpa using own), own, besides_signal_self]
    · rw [List.filter_cons_of_pos (by simpa using own), besides_signal own, List.foldl_cons]

theorem besides_stop : broker.stop.1.besides id wipe = (broker.besides id wipe).stop.1 := by
  have ids : (broker.besides id wipe).table.ids = broker.table.ids.filter (· ≠ id) := by
    rw [besides_frame, Table.ids_erase]
  have stopped : broker.stop.1.besides id wipe =
      { (broker.table.ids.foldl signal broker).besides id wipe with
        table := broker.table.clear.erase id, dispatcher := .ended } := by
    cases id <;> rfl
  rw [stopped, besides_foldl_signal, ← ids]
  rw [stop, besides_frame]
  rfl

theorem tell_besides {caller : CallId} {call : Call} (found : broker.calls[caller]? = some call)
    (spares : call.spares id = true) (reply : DispatcherReply) :
    (broker.besides id wipe).tell (broker.place id caller) reply =
      ((broker.tell caller reply).1.besides id wipe, (broker.tell caller reply).2) := by
  have there := @calls_besides _ _ broker id wipe _ _ found spares
  obtain ⟨request, waits, told⟩ | ⟨gone, told⟩ := broker.tell_cases caller reply
  · cases found.symm.trans waits
    rw [told, besides_setPhase found spares]
    simp only [tell, there]
  · obtain ⟨request, waits', told'⟩ | ⟨_, told'⟩ :=
      (broker.besides id wipe).tell_cases (broker.place id caller) reply
    · cases there.symm.trans waits'
      exact absurd rfl (gone _ found)
    · rw [told', told]

theorem modify_blank_append (runs later : List (Run Task)) (n : Nat) :
    (runs.modify n Run.blank ++ later).modify n Run.blank = (runs ++ later).modify n Run.blank := by
  induction runs generalizing n with
  | nil => simp
  | cons first runs ih =>
    cases n with
    | zero => rfl
    | succ n => simp only [List.modify_succ_cons, List.cons_append, ih]

theorem besides_opening (separates : service.Separates id wipe) (operation : Operation) :
    (broker.opening service operation).besides id wipe =
      ((broker.besides id wipe).opening service operation).blank id wipe := by
  have table := broker.table.erase_allocate id operation.kind
    (broker.origin.after ⟨broker.clock⟩) broker.clock
  cases id with
  | zero =>
    rw [besides_frame, besides_frame]
    simp only [opening, blank, mapRun, table, separates.again]
    rfl
  | succ n =>
    rw [besides_frame, besides_frame]
    simp only [opening, blank, mapRun, table, separates.again, modify_blank_append]
    rfl

theorem blank_setPhase (caller : CallId) (phase : Call.Phase) :
    (broker.setPhase caller phase).blank id wipe =
      (broker.blank id wipe).setPhase caller phase := by
  cases id <;> rfl

theorem besides_discard {transaction : TransactionId} (apart : transaction ≠ id) :
    (broker.discard transaction).besides id wipe =
      (broker.besides id wipe).discard transaction := by
  have table : (broker.besides id wipe).table = broker.table.erase id := by rw [besides_frame]
  rw [discard, besides_withTable, besides_signal apart, Table.erase_comm, discard, table]

theorem blank_discard {transaction : TransactionId} (apart : transaction ≠ id) :
    (broker.discard transaction).blank id wipe = (broker.blank id wipe).discard transaction := by
  cases transaction with
  | zero => cases id <;> simp [discard, signal, blank, mapRun, Table.erase_comm]
  | succ n =>
    cases id with
    | zero => simp [discard, signal, blank, mapRun, Table.erase_comm]
    | succ m =>
      have positions : n ≠ m := fun same => apart (congrArg _ same)
      simp [discard, signal, blank, mapRun, Table.erase_comm, List.modify_modify_ne _ _ _ positions]

theorem besides_discard_self : (broker.discard id).besides id wipe = broker.besides id wipe := by
  rw [discard, besides_withTable, Table.erase_erase, besides_signal_self, besides_frame]

theorem blank_discard_self : (broker.discard id).blank id wipe = broker.blank id wipe := by
  have unseen :
      (Run.blank : Run Task → Run Task) ∘ ({ · with cancelled := true }) = Run.blank := rfl
  cases id with
  | zero => simp [discard, signal, blank, mapRun]
  | succ n => simp [discard, signal, blank, mapRun, List.modify_modify_eq, unseen]

theorem Handles.besides (separates : service.Separates id wipe) {action : Action}
    (handles : Handles service broker action after events) (spares : action.spares id = true)
    (callers : ∀ caller, action.caller? = some caller →
      ∃ call, broker.calls[caller]? = some call ∧ call.spares id = true) :
    ∃ bare events',
      Handles service (broker.besides id wipe) (action.renamed (broker.place id)) bare
        events' ∧
      bareSight id wipe (bare, events') = broker.sight id wipe (after, events) := by
  cases handles with
  | @opened operation caller request waits =>
    obtain ⟨call, found, fair⟩ := callers caller rfl
    cases found.symm.trans waits
    refine ⟨_, _, .opened (calls_besides found fair), ?_⟩
    have known : (broker.opening service operation).calls[caller]? =
        some { request, phase := .awaiting } := found
    have told : ((broker.opening service operation).setPhase caller
          (.told (.opened broker.table.nextId))).besides id wipe =
        (((broker.besides id wipe).opening service operation).setPhase (broker.place id caller)
          (.told (.opened broker.table.nextId))).blank id wipe := by
      rw [besides_setPhase known fair, besides_opening separates, blank_setPhase]
      rfl
    rw [bareSight, sight, nextId_besides, told]
    rfl
  | @orphaned operation caller gone =>
    obtain ⟨call, found, fair⟩ := callers caller rfl
    have there := @calls_besides _ _ broker id wipe _ _ found fair
    have gone' (other : Call)
        (same : (broker.besides id wipe).calls[broker.place id caller]? = some other) :
        other.phase ≠ .awaiting := Option.some.inj (there.symm.trans same) ▸ gone call found
    have discarded :
        ((broker.opening service operation).discard broker.table.nextId).besides id wipe =
          (((broker.besides id wipe).opening service operation).discard broker.table.nextId).blank
            id wipe := by
      -- The orphan may be the very transaction that is looked past.
      by_cases own : broker.table.nextId = id
      · rw [own, besides_discard_self, blank_discard_self, besides_opening separates]
      · rw [besides_discard own, blank_discard own, besides_opening separates]
    refine ⟨_, _, .orphaned gone', ?_⟩
    rw [bareSight, sight, nextId_besides, discarded]
    rfl
  | @granted transaction caller slot live usable =>
    obtain ⟨call, found, fair⟩ := callers caller rfl
    have apart : transaction ≠ id := by simpa [Action.spares] using spares
    refine ⟨_, _, .granted ((find?_besides apart).trans live) usable, sight_eq separates ?_ rfl⟩
    have known : ({ broker with table := broker.table.setState transaction .valueReady }).calls[
        caller]? = some call := found
    have told := @tell_besides _ _ _ id wipe caller call known fair .granted
    rw [besides_withTable, Table.erase_setState, ← @table_besides _ _ broker id wipe] at told
    exact congrArg Prod.fst told
  | @refused transaction caller fault denied =>
    obtain ⟨call, found, fair⟩ := callers caller rfl
    have apart : transaction ≠ id := by simpa [Action.spares] using spares
    have denied' : (broker.besides id wipe).table.access transaction = .error fault := by
      rw [table_besides, Table.access_erase _ apart, denied]
      rfl
    refine ⟨_, _, .refused denied', sight_eq separates ?_ rfl⟩
    rw [tell_besides found fair]
  | @cancelled transaction live =>
    have apart : transaction ≠ id := by simpa [Action.spares] using spares
    refine ⟨_, _, .cancelled ((isLive_besides apart).trans live), sight_eq separates ?_ rfl⟩
    have marked := @besides_withTable _ _ (broker.signal transaction) id wipe
      (broker.table.setState transaction .cancelled)
    rw [besides_signal apart, Table.erase_setState, ← @table_besides _ _ broker id wipe] at marked
    exact marked.symm
  | @completed transaction live =>
    have apart : transaction ≠ id := by simpa [Action.spares] using spares
    refine ⟨_, _, .completed ((isLive_besides apart).trans live), sight_eq separates ?_ rfl⟩
    have erased := @besides_withTable _ _ broker id wipe (broker.table.erase transaction)
    rw [Table.erase_comm, ← @table_besides _ _ broker id wipe] at erased
    exact erased.symm
  | @cancelIgnored transaction gone =>
    have apart : transaction ≠ id := by simpa [Action.spares] using spares
    exact ⟨_, _, .cancelIgnored ((isLive_besides apart).trans gone), sight_eq separates rfl rfl⟩
  | @completeIgnored transaction gone =>
    have apart : transaction ≠ id := by simpa [Action.spares] using spares
    exact ⟨_, _, .completeIgnored ((isLive_besides apart).trans gone),
      sight_eq separates rfl rfl⟩
  | inspected => cases spares

/-- A broker that runs until it is shut down: it stays in reach and sweeps nothing. -/
structure Steady (broker : Broker World Task) : Prop where
  formed : broker.WellFormed
  reachable : broker.reachable = true
  unswept : broker.config.transactionTtl = none
  roomy : 0 < broker.config.actionQueueCapacity
  running : broker.shutdown = false → ∃ due, broker.dispatcher = .running due

theorem dispatch?_of_down {due : Nat} (running : broker.dispatcher = .running due)
    (down : broker.shutdown = true) : broker.dispatch? service = some broker.stop := by
  simp only [dispatch?, running, down, if_true]

theorem dispatch?_of_head {due : Nat} (running : broker.dispatcher = .running due)
    (up : broker.shutdown = false) {action : Action} {queue : List Action}
    (head : broker.queue = action :: queue)
    (handles : Handles service { broker with queue } action after events) :
    broker.dispatch? service = some (after, .handled action :: events) := by
  have handled := handles.handle_eq
  simp only [running, up] at handled
  simp only [dispatch?, running, up, head, handled, Bool.false_eq_true, if_false]

theorem dispatch?_of_idle {due : Nat} (running : broker.dispatcher = .running due)
    (up : broker.shutdown = false) (idle : broker.queue = []) (reachable : broker.reachable = true)
    (unswept : broker.config.transactionTtl = none) : broker.dispatch? service = none := by
  simp [dispatch?, running, up, idle, hasSenders, reachable, unswept]

theorem dispatch?_of_still (still : ∀ due, broker.dispatcher ≠ .running due) :
    broker.dispatch? service = none := by
  unfold dispatch?
  split
  · rename_i due running
    exact absurd running (still due)
  · rfl

theorem dispatch?_besides (separates : service.Separates id wipe) (steady : broker.Steady)
    (visible : ¬ broker.Hidden id .dispatcher) :
    ((broker.besides id wipe).dispatch? service).map (bareSight id wipe) =
      (broker.dispatch? service).map (broker.sight id wipe) := by
  obtain ⟨config, _, _, _, shutdown, reachable, dispatcher, _⟩ :=
    broker.besides_settings id wipe
  have queue : (broker.besides id wipe).queue =
      (broker.queue.filter (·.spares id)).map (·.renamed (broker.place id)) := by
    rw [besides_frame]
  by_cases running : ∃ due, broker.dispatcher = .running due
  · obtain ⟨due, running⟩ := running
    have running' := dispatcher.trans running
    cases up : broker.shutdown with
    | true =>
      rw [dispatch?_of_down running up, dispatch?_of_down running' (shutdown.trans up)]
      exact congrArg some (sight_eq separates besides_stop.symm rfl)
    | false =>
      cases head : broker.queue with
      | nil =>
        rw [head] at queue
        rw [dispatch?_of_idle running up head steady.reachable steady.unswept,
          dispatch?_of_idle running' (shutdown.trans up) queue (reachable.trans steady.reachable)
            ((congrArg _ config).trans steady.unswept)]
        rfl
      | cons action rest =>
        have spares : action.spares id = true := by
          cases spares : action.spares id with
          | true => rfl
          | false => exact absurd ⟨up, action, rest, head, spares⟩ visible
        have callers (caller : CallId) (asks : action.caller? = some caller) :
            ∃ call, broker.calls[caller]? = some call ∧ call.spares id = true := by
          obtain ⟨call, found, same, _⟩ :=
            steady.formed.asked action (head ▸ List.mem_cons_self) caller asks
          refine ⟨call, found, ?_⟩
          rw [Call.spares, ← call.request.spares_action id caller, same, spares]
        have handles := handles_of_handle service { broker with queue := rest } action
        obtain ⟨bare, events', handles', same⟩ := handles.besides separates spares callers
        rw [besides_withQueue] at handles'
        rw [head, List.filter_cons_of_pos spares, List.map_cons] at queue
        rw [dispatch?_of_head running up head handles,
          dispatch?_of_head running' (shutdown.trans up) queue handles']
        exact congrArg some same
  · have still (due : Nat) : broker.dispatcher ≠ .running due :=
      fun same => running ⟨due, same⟩
    rw [dispatch?_of_still still, dispatch?_of_still (by rw [dispatcher]; exact still)]
    rfl

end Dispatcher

/-- A move that has nothing to do with the transaction looks the same besides it, unless it waits
for room that actions on behalf of the transaction take. -/
theorem fire?_besides (separates : service.Separates id wipe) (steady : broker.Steady) {move : Move}
    (visible : ¬ broker.Hidden id move) :
    (broker.fire? service move = none ∧ broker.Crowded id wipe) ∨
    ((broker.besides id wipe).fire? service (move.renamed (broker.place id))).map
        (bareSight id wipe) =
      (broker.fire? service move).map (broker.sight id wipe) := by
  cases move with
  | dispatcher => exact .inr (dispatch?_besides separates steady visible)
  | run transaction =>
    right
    simp only [Move.renamed, fire?, advanceRun?_besides separates visible, Option.map_map]
    refine Option.map_congr fun step fired => ?_
    obtain ⟨after, events⟩ := step
    obtain ⟨_, _, _, _, advances, _⟩ := advances_of_advanceRun? fired
    refine sight_eq separates rfl ?_
    rw [advances.answers_eq, answersBesides, advances.answers_eq]
    rfl
  | call caller =>
    cases found : broker.calls[caller]? with
    | none =>
      have missing := @calls_besides_none _ _ broker id wipe _ found
      right
      simp [Move.renamed, fire?, advanceCall?, found, missing]
    | some call =>
      refine advanceCall?_besides separates found ?_
      cases spares : call.spares id with
      | true => rfl
      | false => exact absurd ⟨call, found, spares⟩ visible

end Broker

end InstanceBroker
