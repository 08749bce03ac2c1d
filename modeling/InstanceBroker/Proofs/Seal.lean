import InstanceBroker.Proofs.Release

namespace InstanceBroker

variable {World Task : Type} {service : Service World Task}

def Run.Phase.Seals (broker : Broker World Task) (id : TransactionId)
    (final? : Option ResultValue) :
    Run.Phase Task → Prop
  | .working _ => final? = none
  | .reporting value _ => final? = none ∧ value.isTerminal = false
  | .delivering value => final? = none ∧ value.isTerminal = true
  | .ended => final?.isSome = true ∨ broker.isOpen id = false ∨ id ∈ broker.thrownAway

theorem Run.Phase.Seals.ended {broker : Broker World Task} {id : TransactionId}
    {final : ResultValue} {phase : Run.Phase Task} (seals : phase.Seals broker id (some final)) :
    phase = .ended := by
  cases phase with
  | ended => rfl
  | working => cases seals
  | reporting | delivering => exact absurd seals.1 (Option.some_ne_none final)

namespace Broker

def Sealed (broker : Broker World Task) (id : TransactionId) (run : Run Task)
    (written : List ResultValue) : Prop :=
  ∃ reports final?, written = reports ++ final?.toList ∧
    (∀ value ∈ reports, value.isTerminal = false) ∧
    (∀ value ∈ final?, value.isTerminal = true) ∧
    run.phase.Seals broker id final?

variable {broker after : Broker World Task} {turn : Turn World} {events : List Event}
  {id : TransactionId}

theorem WellFormed.live_of_granted (formed : broker.WellFormed) {caller : CallId} {call : Call}
    {action : Action} {queue : List Action} (found : broker.calls[caller]? = some call)
    (head : broker.queue = action :: queue) (asks : action.caller? = some caller)
    (replies : broker.reply? action = some .granted)
    (holds : ({ call with phase := .told .granted } : Call).holds id = true) :
    broker.table.isLive id = true := by
  obtain ⟨asking, there, same, _⟩ :=
    formed.asked action (head ▸ List.mem_cons_self) caller asks
  cases there.symm.trans found
  obtain ⟨request, phase⟩ := call
  cases request with
  | collect kind transaction =>
    cases eq_of_beq holds
    cases same
    rcases broker.reply?_getResult id caller with
      ⟨_, refused⟩ | ⟨slot, live, _⟩
    · cases refused.symm.trans replies
    · exact Table.isLive_of_find? live
  | initiate | cancel | listTransactions => cases holds

theorem holds_step (formed : broker.WellFormed) {caller : CallId} {call : Call}
    {phase : Call.Phase} (found : broker.calls[caller]? = some call)
    (step : CallStep broker after caller call turn events phase)
    (holds : ({ call with phase } : Call).holds id = true) :
    call.holds id = true ∨ broker.table.isLive id = true := by
  cases step with
  | kept => exact .inl holds
  | @told _ _ _ reply _ _ head asks replies =>
    right
    obtain ⟨request, old⟩ := call
    cases reply with
    | granted => exact formed.live_of_granted found head asks replies holds
    | opened | refused | listing => cases request <;> cases holds
  | progressed progresses =>
    cases progresses with
    | @preempted request | @closed request | @queued request | @learned request =>
      cases request <;> cases holds
    | @opened request => cases request <;> exact .inl holds
    | tookLast => exact .inl holds
    | cancelQueued | stranded | tookProgress | unreleased | released => cases holds
  | abandoned =>
    obtain ⟨request, old⟩ := call
    cases request <;> cases holds

theorem dead_step (formed : broker.WellFormed)
    (taken : broker.turn? service turn = some (after, events)) {run : Run Task}
    (begun : broker.run? id = some run) (dead : broker.table.isLive id = false) :
    after.table.isLive id = false := by
  have known := ((broker.run?_isSome_iff id).mp (Option.isSome_of_eq_some begun)).2
  have missing : broker.table.find? id = none := by simpa [Table.isLive] using dead
  rw [Table.isLive, missing_step formed known taken (.inl missing)]
  rfl

theorem unheld_step (formed : broker.WellFormed)
    (taken : broker.turn? service turn = some (after, events))
    (dead : broker.table.isLive id = false) {caller : CallId}
    (unheld : ∀ call, broker.calls[caller]? = some call → call.holds id = false) {next : Call}
    (found : after.calls[caller]? = some next) : next.holds id = false := by
  cases held : next.holds id with
  | false => rfl
  | true =>
    obtain ⟨request, phase⟩ := next
    rcases call_origin taken found with ⟨call, before, rfl, step⟩ | ⟨_, _, submitting, _⟩
    · rcases holds_step formed before step held with held | live
      · rw [unheld call before] at held
        cases held
      · rw [dead] at live
        cases live
    · cases submitting
      cases request <;> cases held

theorem unwanted_kept (formed : broker.WellFormed)
    (taken : broker.turn? service turn = some (after, events)) {run : Run Task}
    (begun : broker.run? id = some run) (unwanted : broker.isWanted id = false) :
    after.isWanted id = false := by
  simp only [isWanted, Bool.or_eq_false_iff, List.any_eq_false, Bool.not_eq_true] at unwanted ⊢
  obtain ⟨dead, unread⟩ := unwanted
  refine ⟨dead_step formed taken begun dead, fun next among => ?_⟩
  obtain ⟨caller, found⟩ := List.mem_iff_getElem?.mp among
  exact unheld_step formed taken dead
    (fun call before => unread call (List.mem_of_getElem? before)) found

theorem closed_kept (formed : broker.WellFormed)
    (taken : broker.turn? service turn = some (after, events)) {run : Run Task}
    (begun : broker.run? id = some run) (closed : broker.isOpen id = false) :
    after.isOpen id = false := by
  simp only [isOpen, Bool.and_eq_false_iff, Bool.not_eq_false'] at closed ⊢
  rcases closed with cancelled | unwanted
  · exact .inl (isCancelled_kept taken cancelled)
  · exact .inr (unwanted_kept formed taken begun unwanted)

theorem closed_of_unwanted
    (unwanted : broker.isCancelled id = true ∨ broker.isWanted id = false) :
    broker.isOpen id = false := by
  rcases unwanted with cancelled | unwanted
  · simp [isOpen, cancelled]
  · simp [isOpen, unwanted]

theorem Sealed.still (formed : broker.WellFormed)
    (taken : broker.turn? service turn = some (after, events)) {run next : Run Task}
    (begun : broker.run? id = some run) {written : List ResultValue}
    (seals : broker.Sealed id run written) (phase : next.phase = run.phase)
    (unwritten : writtenTo id events = []) :
    after.Sealed id next (written ++ writtenTo id events) := by
  obtain ⟨reports, final?, shape, ongoing, last, place⟩ := seals
  refine ⟨reports, final?, ?_, ongoing, last, ?_⟩
  · rw [unwritten, List.append_nil, shape]
  · rw [phase]
    cases stands : run.phase with
    | working | reporting | delivering =>
      rw [stands] at place
      exact place
    | ended =>
      rw [stands] at place
      have settings := settings_step taken
      refine place.imp_right (Or.imp (closed_kept formed taken begun) fun thrown => ?_)
      rw [settings.2.1]
      exact thrown

theorem Sealed.advanced (formed : broker.WellFormed)
    {run next : Run Task} {world : World} (begun : broker.run? id = some run)
    (taken : broker.turn? service (.move (.run id)) = some (after, events))
    {written : List ResultValue} (seals : broker.Sealed id run written)
    (advances : Advances service broker id run world next events) :
    after.Sealed id next (written ++ writtenTo id events) := by
  obtain ⟨reports, final?, shape, ongoing, last, place⟩ := seals
  have closed (unwanted : broker.isCancelled id = true ∨ broker.isWanted id = false) :
      after.isOpen id = false := closed_kept formed taken begun (closed_of_unwanted unwanted)
  cases advances with
  | proceeded working =>
    rw [working] at place
    exact ⟨reports, final?, by simp [shape, writtenTo], ongoing, last, place⟩
  | reported working =>
    rw [working] at place
    exact ⟨reports, final?, by simp [shape, writtenTo], ongoing, last, place, rfl⟩
  | dropped _ _ cancelled =>
    refine ⟨reports, final?, ?_, ongoing, last, .inr (.inl (closed (.inl cancelled)))⟩
    simp [shape, writtenTo, Event.written?]
  | finished working =>
    rw [working] at place
    refine ⟨reports, final?, by simp [shape, writtenTo], ongoing, last, place, ?_⟩
    exact isTerminal_ofOutcome _ _
  | @accepted value task reporting =>
    rw [reporting] at place
    obtain ⟨rfl, unfinished⟩ := place
    refine ⟨reports ++ [value], none, ?_, ?_, ?_, rfl⟩
    · simp [shape, writtenTo, Event.written?]
    · intro other among
      rcases List.mem_append.mp among with old | new
      · exact ongoing other old
      · rw [List.mem_singleton.mp new]
        exact unfinished
    · intro other among
      cases among
  | refused reporting =>
    rw [reporting] at place
    exact ⟨reports, final?, by simp [shape, writtenTo], ongoing, last, place.1⟩
  | @delivered value delivering =>
    rw [delivering] at place
    obtain ⟨rfl, terminal⟩ := place
    refine ⟨reports, some value, ?_, ongoing, ?_, .inl rfl⟩
    · simp [shape, writtenTo, Event.written?]
    · rintro other ⟨rfl⟩
      exact terminal
  | undelivered _ unwanted =>
    refine ⟨reports, final?, ?_, ongoing, last, .inr (.inl (closed unwanted))⟩
    simp [shape, writtenTo, Event.written?]

theorem Sealed.step (formed : broker.WellFormed)
    (taken : broker.turn? service turn = some (after, events)) {run : Run Task}
    (begun : broker.run? id = some run) {written : List ResultValue}
    (seals : broker.Sealed id run written) :
    ∃ next, after.run? id = some next ∧
      after.Sealed id next (written ++ writtenTo id events) := by
  obtain ⟨next, there, step⟩ := run_step taken begun
  refine ⟨next, there, ?_⟩
  cases step with
  | kept _ _ unwritten => exact seals.still formed taken begun rfl unwritten
  | read _ _ _ _ _ unwritten => exact seals.still formed taken begun rfl unwritten
  | signalled _ _ unwritten => exact seals.still formed taken begun rfl unwritten
  | advanced advances => exact seals.advanced formed begun taken advances

theorem sealed_opened (operation : Operation) (cancelled : Bool)
    (next : id = broker.table.nextId) (thrownAway : after.thrownAway = broker.thrownAway) :
    after.Sealed id { broker.opened service operation with cancelled } [] := by
  refine ⟨[], none, rfl, nofun, nofun, ?_⟩
  subst next
  by_cases thrown : broker.thrownAway.contains broker.table.nextId = true
  · simp only [opened, thrown, if_true]
    exact .inr (.inr (thrownAway ▸ List.contains_iff_mem.mp thrown))
  · simp only [opened, thrown]
    rfl

end Broker

variable {config : Config} {origin : Timestamp} {world : World} {thrownAway : List TransactionId}
  {moments : List (Moment World Task)} {last : Broker World Task} {id : TransactionId}

theorem Trace.seals (trace : Trace service (.fresh config origin world thrownAway) moments last)
    (id : TransactionId) :
    (last.run? id = none ∧ writtenTo id (history moments) = []) ∨
      ∃ run, last.run? id = some run ∧ last.Sealed id run (writtenTo id (history moments)) := by
  induction trace with
  | nil =>
    left
    cases id <;> exact ⟨rfl, rfl⟩
  | @snoc moments broker after turn events earlier taken ih =>
    have formed := earlier.wellFormed
    rw [history_append, history_singleton, writtenTo_append]
    rcases ih with ⟨missing, silent⟩ | ⟨run, begun, seals⟩
    · obtain ⟨_, unwritten, begun⟩ := Broker.run_begun taken formed.numbered missing
      have thrownAway := (Broker.settings_step taken).2.1
      rw [silent, writtenTo, unwritten]
      cases begun with
      | missing missing => exact .inl ⟨missing, rfl⟩
      | opened _ next begun =>
        exact .inr ⟨_, begun, Broker.sealed_opened _ false next thrownAway⟩
      | orphaned _ next begun =>
        exact .inr ⟨_, begun, Broker.sealed_opened _ true next thrownAway⟩
    · exact .inr (seals.step formed taken begun)

/-- Nothing more comes of the transaction, and all that came of it was taken. -/
def Broker.Spent (broker : Broker World Task) (id : TransactionId) : Prop :=
  ∃ run, broker.run? id = some run ∧ run.phase = .ended ∧ run.buffer = []

namespace Trace

theorem spent_of_took (trace : Trace service (.fresh config origin world thrownAway) moments last)
    {caller : CallId} {value : ResultValue} (took : .took caller id value ∈ history moments)
    (terminal : value.isTerminal = true) : last.Spent id := by
  have among : value ∈ (takes id (history moments)).map (·.2) :=
    List.mem_map_of_mem (mem_takes.mpr took)
  have conserved := (trace.conservation id).1
  have read : value ∈ writtenTo id (history moments) :=
    conserved ▸ List.mem_append_left _ among
  rcases trace.seals id with
    ⟨_, silent⟩ | ⟨run, found, reports, final?, shape, ongoing, _, place⟩
  · rw [silent] at read
    cases read
  · have unreported : value ∉ reports := by
      intro reported
      rw [ongoing value reported] at terminal
      cases terminal
    rw [Broker.buffered, found, shape] at conserved
    cases final? with
    | none =>
      rw [shape] at read
      rcases List.mem_append.mp read with reported | last
      · exact absurd reported unreported
      · cases last
    | some final =>
      refine ⟨run, found, place.ended, ?_⟩
      -- What is left would come after the value that was taken, which is the last one.
      rcases List.eq_nil_or_concat run.buffer with empty | ⟨rest, later, left⟩
      · exact empty
      · rw [Option.elim_some, left, List.concat_eq_append, ← List.append_assoc] at conserved
        have before := (List.append_inj' conserved rfl).1
        exact absurd (before ▸ List.mem_append_left _ among) unreported

/-- If a run that could write to the last has ended and nothing is left of its values, somebody took
the terminal one. -/
theorem took_of_exhausted
    (trace : Trace service (.fresh config origin world thrownAway) moments last)
    (carried : id ∉ thrownAway) (isOpen : last.isOpen id = true) {run : Run Task}
    (found : last.run? id = some run) (ended : run.phase = .ended) (empty : run.buffer = []) :
    ∃ caller value, .took caller id value ∈ history moments ∧ value.isTerminal = true := by
  have conserved := (trace.conservation id).1
  rw [Broker.buffered, found, Option.elim_some, empty, List.append_nil] at conserved
  rcases trace.seals id with
    ⟨missing, _⟩ | ⟨_, there, reports, final?, shape, _, last, place⟩
  · cases missing.symm.trans found
  · cases there.symm.trans found
    rw [ended] at place
    rcases place with closing | closed | thrown
    · obtain ⟨value, rfl⟩ := Option.isSome_iff_exists.mp closing
      have among : value ∈ (takes id (history moments)).map (·.2) := by
        rw [conserved, shape]
        exact List.mem_append_right _ List.mem_cons_self
      obtain ⟨⟨caller, _⟩, took, rfl⟩ := List.mem_map.mp among
      exact ⟨caller, _, mem_takes.mp took, last _ rfl⟩
    · rw [isOpen] at closed
      cases closed
    · rw [trace.thrownAway_eq] at thrown
      exact absurd thrown carried

end Trace

end InstanceBroker
