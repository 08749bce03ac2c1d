import InstanceBroker.Proofs.Foreclosure
import InstanceBroker.Service.Scripted

namespace InstanceBroker

variable {World Task : Type} {service : Service World Task}

/-- The value says what the service ended with: its error or what it handed back, in the form of
its kind. -/
inductive Operation.Kind.Conveys :
    (kind : Operation.Kind) → Except OperationError kind.Returned → ResultValue → Prop
  | failed {kind : Operation.Kind} (error : OperationError) :
      Conveys kind (.error error) (.failed error)
  | created (result : CreateResult) :
      Conveys .create (.ok result) (.final (.created { result with finished := true }))
  | done {kind : Operation.Kind} (returned : kind.Returned)
      (wordless : kind = .start ∨ kind = .stop ∨ kind = .quit ∨ kind = .delete) :
      Conveys kind (.ok returned) (.final .done)
  | details (details : InstanceDetails) : Conveys .status (.ok details) (.final (.details details))
  | instances (names : List String) :
      Conveys .listInstances (.ok names) (.final (.instances names))

theorem Operation.Kind.conveys_ofOutcome (kind : Operation.Kind)
    (outcome : Except OperationError kind.Returned) :
    kind.Conveys outcome (.ofOutcome kind outcome) := by
  cases outcome with
  | error error => exact .failed error
  | ok returned =>
    cases kind with
    | create => exact .created returned
    | start | stop | quit | delete => exact .done returned (by simp)
    | status => exact .details returned
    | listInstances => exact .instances returned

/-- A run in surroundings that do as they like, as long as they leave the run to itself and cancel
it for good. The moments are those at which the run moves. -/
inductive Life (service : Service World Task) (id : TransactionId) (start : Broker World Task) :
    List (Moment World Task) → Broker World Task → Prop
  | begun : Life service id start [] start
  | surrounded {moments : List (Moment World Task)} {broker after : Broker World Task}
      {run next : Run Task} (earlier : Life service id start moments broker)
      (found : broker.run? id = some run) (there : after.run? id = some next)
      (operation : next.operation = run.operation) (phase : next.phase = run.phase)
      (cancelled : broker.isCancelled id = true → after.isCancelled id = true) :
      Life service id start moments after
  | moved {moments : List (Moment World Task)} {broker after : Broker World Task}
      {events : List Event} (earlier : Life service id start moments broker)
      (taken : broker.turn? service (.move (.run id)) = some (after, events)) :
      Life service id start (moments ++ [⟨broker, .move (.run id), events⟩]) after

namespace Broker

def Finishes (service : Service World Task) (broker : Broker World Task) (id : TransactionId)
    (operation : Operation) (outcome : Except OperationError operation.kind.Returned) : Prop :=
  ∃ run task world, broker.run? id = some run ∧ run.phase = .working task ∧
    service.step (broker.context id) operation broker.world task = .finish world outcome

variable {broker after : Broker World Task} {events : List Event} {id : TransactionId}

theorem advances_of_turn? {run : Run Task} (found : broker.run? id = some run)
    (taken : broker.turn? service (.move (.run id)) = some (after, events)) :
    ∃ next world, after.run? id = some next ∧
      Advances service broker id run world next events := by
  obtain ⟨next, there, step⟩ := run_step taken found
  cases step with
  | kept other => exact absurd rfl other
  | advanced advances => exact ⟨next, _, there, advances⟩

end Broker

def Conveyed (service : Service World Task) (id : TransactionId) (operation : Operation)
    (moments : List (Moment World Task)) (value : ResultValue) : Prop :=
  ∃ moment ∈ moments, ∃ outcome,
    moment.broker.Finishes service id operation outcome ∧ operation.kind.Conveys outcome value

/-- The run has written these reports and then this last value, if any. -/
structure Wrote (service : Service World Task) (id : TransactionId) (operation : Operation)
    (moments : List (Moment World Task)) (reports : List CreateResult)
    (final? : Option ResultValue) : Prop where
  written : writtenTo id (history moments) = reports.map .progress ++ final?.toList
  reported : reports ≠ [] → operation.kind = .create
  unfinished : ∀ report ∈ reports, report.finished = false
  conveyed : ∀ value ∈ final?, Conveyed service id operation moments value

def Run.Phase.Fits (service : Service World Task) (id : TransactionId) (operation : Operation)
    (moments : List (Moment World Task)) (final? : Option ResultValue) : Run.Phase Task → Prop
  | .working _ => final? = none
  | .reporting value _ => final? = none ∧ operation.kind = .create ∧
      ∃ report, value = .progress report ∧ report.finished = false
  | .delivering value => final? = none ∧ Conveyed service id operation moments value
  | .ended => (∀ moment ∈ moments, moment.broker.isOpen id = true) → final?.isSome = true

section Steps

variable {operation : Operation} {moments : List (Moment World Task)}
  {moment : Moment World Task} {reports : List CreateResult} {final? : Option ResultValue}
  {id : TransactionId}

theorem Conveyed.later {value : ResultValue}
    (conveyed : Conveyed service id operation moments value) :
    Conveyed service id operation (moments ++ [moment]) value := by
  obtain ⟨moment, among, rest⟩ := conveyed
  exact ⟨moment, List.mem_append_left _ among, rest⟩

namespace Wrote

theorem still (wrote : Wrote service id operation moments reports final?)
    (unwritten : writtenTo id moment.events = []) :
    Wrote service id operation (moments ++ [moment]) reports final? where
  written := by
    rw [history_append, history_singleton, writtenTo_append, unwritten, List.append_nil]
    exact wrote.written
  reported := wrote.reported
  unfinished := wrote.unfinished
  conveyed value given := (wrote.conveyed value given).later

theorem report (wrote : Wrote service id operation moments reports none)
    (create : operation.kind = .create) {report : CreateResult} (finished : report.finished = false)
    (writes : writtenTo id moment.events = [.progress report]) :
    Wrote service id operation (moments ++ [moment]) (reports ++ [report]) none where
  written := by
    rw [history_append, history_singleton, writtenTo_append, writes, wrote.written]
    simp
  reported _ := create
  unfinished other among := by
    rcases List.mem_append.mp among with old | new
    · exact wrote.unfinished other old
    · rw [List.mem_singleton.mp new]
      exact finished
  conveyed value given := by cases given

theorem close (wrote : Wrote service id operation moments reports none) {value : ResultValue}
    (conveyed : Conveyed service id operation moments value)
    (writes : writtenTo id moment.events = [value]) :
    Wrote service id operation (moments ++ [moment]) reports (some value) where
  written := by
    rw [history_append, history_singleton, writtenTo_append, writes, wrote.written]
    simp
  reported := wrote.reported
  unfinished := wrote.unfinished
  conveyed other given := by
    cases given
    exact conveyed.later

end Wrote

namespace Broker

variable {broker : Broker World Task} {run next : Run Task} {world : World} {events : List Event}

theorem not_open (unwanted : broker.isCancelled id = true ∨ broker.isWanted id = false)
    {turn : Turn World} :
    ¬ ∀ moment ∈ moments ++ [Moment.mk broker turn events],
      moment.broker.isOpen id = true := by
  intro peace
  have isOpen : broker.isOpen id = true :=
    peace ⟨broker, turn, events⟩ (List.mem_append_right _ List.mem_cons_self)
  rcases unwanted with cancelled | unwanted
  · simp [Broker.isOpen, cancelled] at isOpen
  · simp [Broker.isOpen, unwanted] at isOpen

theorem Advances.output (advances : Advances service broker id run world next events)
    (found : broker.run? id = some run) (asked : run.operation = operation)
    (wrote : Wrote service id operation moments reports final?)
    (fits : run.phase.Fits service id operation moments final?) :
    let later := moments ++ [⟨broker, .move (.run id), events⟩]
    ∃ reports final?, Wrote service id operation later reports final? ∧
      next.phase.Fits service id operation later final? := by
  subst asked
  -- Only two moves write: a report extends the reports, the last value closes the output.
  cases advances with
  | proceeded working =>
    rw [working] at fits
    exact ⟨reports, final?, wrote.still rfl, fits⟩
  | @reported _ _ progress isCreate working =>
    rw [working] at fits
    exact ⟨reports, final?, wrote.still rfl, fits, isCreate, _, rfl, rfl⟩
  | dropped _ _ cancelled =>
    exact ⟨reports, final?, wrote.still rfl,
      fun peace => absurd peace (not_open (.inl cancelled))⟩
  | @finished task world outcome working demand =>
    rw [working] at fits
    refine ⟨reports, final?, wrote.still rfl, fits, ?_⟩
    refine ⟨_, List.mem_append_right _ List.mem_cons_self, outcome, ?_, ?_⟩
    · exact ⟨run, task, world, found, working, demand⟩
    · exact Operation.Kind.conveys_ofOutcome _ outcome
  | accepted reporting =>
    rw [reporting] at fits
    obtain ⟨rfl, create, report, rfl, finished⟩ := fits
    exact ⟨_, none, wrote.report create finished (by simp [writtenTo, Event.written?]), rfl⟩
  | refused reporting =>
    rw [reporting] at fits
    exact ⟨reports, final?, wrote.still rfl, fits.1⟩
  | delivered delivering =>
    rw [delivering] at fits
    obtain ⟨rfl, conveyed⟩ := fits
    exact ⟨reports, _, wrote.close conveyed (by simp [writtenTo, Event.written?]), fun _ => rfl⟩
  | undelivered _ unwanted =>
    exact ⟨reports, final?, wrote.still rfl, fun peace => absurd peace (not_open unwanted)⟩

end Broker

end Steps

namespace Life

variable {start last : Broker World Task} {moments : List (Moment World Task)}
  {id : TransactionId} {run : Run Task}

theorem kept_run (life : Life service id start moments last) (found : start.run? id = some run) :
    ∃ next, last.run? id = some next := by
  induction life with
  | begun => exact ⟨run, found⟩
  | surrounded _ _ there => exact ⟨_, there⟩
  | moved _ taken ih =>
    obtain ⟨middle, there⟩ := ih
    obtain ⟨next, _, after, _⟩ := Broker.advances_of_turn? there taken
    exact ⟨next, after⟩

theorem wrote (life : Life service id start moments last) (found : start.run? id = some run)
    (begun : run.phase = .working (service.enter id run.operation)) :
    ∃ next reports final?, last.run? id = some next ∧ next.operation = run.operation ∧
      Wrote service id run.operation moments reports final? ∧
      next.phase.Fits service id run.operation moments final? := by
  induction life with
  | begun =>
    refine ⟨run, [], none, found, rfl, ⟨rfl, nofun, nofun, nofun⟩, ?_⟩
    rw [begun]
    rfl
  | surrounded _ before after operation phase _ ih =>
    obtain ⟨middle, reports, final?, there, asked, wrote, fits⟩ := ih
    cases there.symm.trans before
    exact ⟨_, reports, final?, after, operation.trans asked, wrote, phase ▸ fits⟩
  | moved _ taken ih =>
    obtain ⟨middle, reports, final?, there, asked, wrote, fits⟩ := ih
    obtain ⟨next, world, after, advances⟩ := Broker.advances_of_turn? there taken
    obtain ⟨reports, final?, wrote, fits⟩ := advances.output there asked wrote fits
    exact ⟨next, reports, final?, after, advances.operation_eq.trans asked, wrote, fits⟩

theorem silent (life : Life service id start moments last) (found : start.run? id = some run)
    (cancelled : start.isCancelled id = true) :
    last.isCancelled id = true ∧ writtenTo id (history moments) = [] := by
  induction life with
  | begun => exact ⟨cancelled, rfl⟩
  | surrounded _ _ _ _ _ kept ih => exact ⟨kept ih.1, ih.2⟩
  | moved earlier taken ih =>
    obtain ⟨cancelled, unwritten⟩ := ih
    obtain ⟨middle, there⟩ := earlier.kept_run found
    obtain ⟨_, _, _, advances⟩ := Broker.advances_of_turn? there taken
    refine ⟨Broker.isCancelled_kept taken cancelled, ?_⟩
    rw [history_append, history_singleton, writtenTo_append, unwritten,
      advances.unwritten cancelled]
    rfl

end Life

structure Output (service : Service World Task) (id : TransactionId) (operation : Operation)
    (moments : List (Moment World Task)) (last : Broker World Task) : Prop where
  shape : ∃ reports final?, Wrote service id operation moments reports final?
  silent : last.isCancelled id = true → ∀ later after, Life service id last later after →
    writtenTo id (history later) = []
  whole : ∀ run, last.run? id = some run → run.hasEnded = true →
    (∀ moment ∈ moments, moment.broker.isOpen id = true) →
    ∃ reports value, Wrote service id operation moments reports (some value)

/-- Whoever reads, cancels or goes away at whatever time, and whatever the service is up to, a run
keeps to its protocol. -/
theorem output_of_life {start last : Broker World Task} {moments : List (Moment World Task)}
    {id : TransactionId} {run : Run Task} (found : start.run? id = some run)
    (begun : run.phase = .working (service.enter id run.operation))
    (life : Life service id start moments last) :
    Output service id run.operation moments last := by
  obtain ⟨next, reports, final?, there, _, wrote, fits⟩ := life.wrote found begun
  constructor
  case shape => exact ⟨reports, final?, wrote⟩
  case silent =>
    intro cancelled later after rest
    exact (rest.silent there cancelled).2
  case whole =>
    intro ended known closed peace
    cases there.symm.trans known
    rw [Run.phase_of_hasEnded closed] at fits
    obtain ⟨value, rfl⟩ := Option.isSome_iff_exists.mp (fits peace)
    exact ⟨reports, value, wrote⟩

theorem Moment.filter_other {id : TransactionId} {moment : Moment World Task}
    (other : moment.turn ≠ .move (.run id)) : [moment].filter (·.isOwn id) = [] := by
  have apart : ¬ moment.isOwn id = true := mt Moment.isOwn_iff.mp other
  simp [apart]

theorem Life.turn {start broker after : Broker World Task} {moments : List (Moment World Task)}
    {id : TransactionId} {run : Run Task} {turn : Turn World} {events : List Event}
    (life : Life service id start moments broker) (found : start.run? id = some run)
    (taken : broker.turn? service turn = some (after, events)) :
    (turn ≠ .move (.run id) ∧ writtenTo id events = [] ∧
      Life service id start moments after) ∨
      (turn = .move (.run id) ∧
        Life service id start (moments ++ [⟨broker, turn, events⟩]) after) := by
  obtain ⟨middle, there⟩ := life.kept_run found
  obtain ⟨next, there', step⟩ := Broker.run_step taken there
  have around (operation : next.operation = middle.operation) (phase : next.phase = middle.phase) :
      Life service id start moments after :=
    life.surrounded there there' operation phase (Broker.isCancelled_kept taken)
  cases step with
  | kept other _ unwritten => exact .inl ⟨other, unwritten, around rfl rfl⟩
  | read _ _ _ _ _ unwritten => exact .inl ⟨by simp, unwritten, around rfl rfl⟩
  | signalled _ _ unwritten => exact .inl ⟨by simp, unwritten, around rfl rfl⟩
  | advanced => exact .inr ⟨rfl, life.moved taken⟩

namespace Broker

variable {broker after : Broker World Task} {id : TransactionId}

theorem working_of_opened (carried : id ∉ broker.thrownAway) (next : id = broker.table.nextId)
    (operation : Operation) :
    (broker.opened service operation).phase = .working (service.enter id operation) := by
  subst next
  simp [opened, carried]

theorem working_of_begun (formed : broker.WellFormed) (carried : id ∉ broker.thrownAway)
    {turn : Turn World} {events : List Event}
    (taken : broker.turn? service turn = some (after, events)) (missing : broker.run? id = none) :
    turn ≠ .move (.run id) ∧ writtenTo id events = [] ∧ (after.run? id = none ∨
      ∃ run, after.run? id = some run ∧
        run.phase = .working (service.enter id run.operation)) := by
  obtain ⟨_, unwritten, begun⟩ := run_begun taken formed.numbered missing
  refine ⟨?_, unwritten, ?_⟩
  · rintro rfl
    simp [turn?, fire?, advanceRun?, missing] at taken
  · cases begun with
    | missing missing => exact .inl missing
    | opened _ next begun => exact .inr ⟨_, begun, working_of_opened carried next _⟩
    | orphaned _ next begun => exact .inr ⟨_, begun, working_of_opened carried next _⟩

end Broker

variable {config : Config} {origin : Timestamp} {world : World} {thrownAway : List TransactionId}
  {moments : List (Moment World Task)} {last : Broker World Task} {id : TransactionId}

/-- Every run of a broker leads such a life, and all that is written for it is written in its
moves. -/
theorem Trace.life (trace : Trace service (.fresh config origin world thrownAway) moments last)
    (carried : id ∉ thrownAway) :
    (last.run? id = none ∧ moments.filter (·.isOwn id) = [] ∧
      writtenTo id (history moments) = []) ∨
    ∃ start run, start.run? id = some run ∧
      run.phase = .working (service.enter id run.operation) ∧
      Life service id start (moments.filter (·.isOwn id)) last ∧
      writtenTo id (history (moments.filter (·.isOwn id))) = writtenTo id (history moments) := by
  induction trace with
  | nil =>
    left
    cases id <;> exact ⟨rfl, rfl, rfl⟩
  | @snoc moments broker after turn events earlier taken ih =>
    rw [List.filter_append, history_append, history_singleton, writtenTo_append]
    rcases ih with ⟨missing, unmoved, silent⟩ | ⟨start, run, found, begun, life, written⟩
    -- The life starts with the turn that opens the run, and that is none of its moves.
    · have carried' : id ∉ broker.thrownAway := by
        rw [earlier.thrownAway_eq]
        exact carried
      obtain ⟨other, unwritten, still | ⟨run, there, working⟩⟩ :=
        Broker.working_of_begun earlier.wellFormed carried' taken missing
      all_goals rw [Moment.filter_other other, unmoved, silent, unwritten]
      · exact .inl ⟨still, rfl, rfl⟩
      · exact .inr ⟨after, run, there, working, .begun, rfl⟩
    · refine .inr ⟨start, run, found, begun, ?_⟩
      rcases life.turn found taken with ⟨other, unwritten, life⟩ | ⟨rfl, life⟩
      · rw [Moment.filter_other other, unwritten, List.append_nil, List.append_nil]
        exact ⟨life, written⟩
      · have own : [Moment.mk broker (.move (.run id)) events].filter (·.isOwn id) =
            [⟨broker, .move (.run id), events⟩] := by simp [Moment.isOwn]
        rw [own, history_append, history_singleton, writtenTo_append, written]
        exact ⟨life, rfl⟩

def boast : Scripted.Script where
  acts := [.send { finished := true, name := "fake", line := some "boot" }, .line "mount"]
  value := some (.created { finished := false, name := "vm" })
  keepGoing := true

def boasting : List (Turn Scripted.World) :=
  [.input .startDispatcher, .input (.request (.initiate (.create { name := some "vm" }))),
    .move (.call 0), .move .dispatcher, .move (.call 0), .move (.run 1), .move (.run 1),
    .move (.run 1), .move (.run 1), .move (.run 1), .input (.request (.collect .create 1)),
    .move (.call 1), .move .dispatcher, .move (.call 1), .move (.call 1), .move (.run 1),
    .move (.run 1), .move (.run 1), .input (.request (.collect .create 1)), .move (.call 2),
    .move .dispatcher, .move (.call 2), .move (.call 2), .move (.run 1)]

theorem output_boasting : ∃ moments last start run,
    (Broker.fresh {} ⟨0, 0⟩ {} []).follow? (Scripted.Scripts.service [(1, boast)]) boasting =
      some (moments, last) ∧
    start.run? 1 = some run ∧
    run.phase = .working ((Scripted.Scripts.service [(1, boast)]).enter 1 run.operation) ∧
    Life (Scripted.Scripts.service [(1, boast)]) 1 start (moments.filter (·.isOwn 1)) last ∧
    (last.run? 1).any (·.hasEnded) = true ∧
    (moments.filter (·.isOwn 1)).all (·.broker.isOpen 1) = true ∧
    writtenTo 1 (history (moments.filter (·.isOwn 1))) =
      [.progress { finished := false, name := "fake", line := some "boot" },
        .progress (.progress "mount"), .final (.created (.complete "vm"))] ∧
    Output (Scripted.Scripts.service [(1, boast)]) 1 run.operation
      (moments.filter (·.isOwn 1)) last := by
  have runs : ∃ moments last,
      (Broker.fresh {} ⟨0, 0⟩ {} []).follow? (Scripted.Scripts.service [(1, boast)]) boasting =
        some (moments, last) ∧
      (last.run? 1).any (·.hasEnded) = true ∧
      (moments.filter (·.isOwn 1)).all (·.broker.isOpen 1) = true ∧
      writtenTo 1 (history (moments.filter (·.isOwn 1))) =
        [.progress { finished := false, name := "fake", line := some "boot" },
          .progress (.progress "mount"), .final (.created (.complete "vm"))] :=
    ⟨_, _, rfl, rfl, rfl, rfl⟩
  obtain ⟨moments, last, followed, ended, isOpen, written⟩ := runs
  have carried : 1 ∉ ([] : List TransactionId) := by simp
  rcases (Trace.of_follow? followed).life carried with
    ⟨missing, _⟩ | ⟨start, run, found, begun, life, _⟩
  · rw [missing] at ended
    cases ended
  · exact ⟨moments, last, start, run, followed, found, begun, life, ended, isOpen, written,
      output_of_life found begun life⟩

end InstanceBroker
