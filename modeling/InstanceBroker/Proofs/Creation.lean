import InstanceBroker.Proofs.Creation.Invariant
import InstanceBroker.Proofs.Quiescence

namespace InstanceBroker

variable {World Task : Type} {service : Service World Task} {reports : List CreateResult}
  {outcome : Except OperationError CreateResult} {id : TransactionId}

theorem Broker.serves_of_kept {broker : Broker World Task} {run : Run Task}
    {taken written produced : List ResultValue} (found : broker.run? id = some run)
    (uncancelled : broker.isCancelled id = false) (kept : Kept run written produced)
    (conserved : taken ++ run.buffer = written)
    (fits : produced <+: creationValues reports outcome) :
    broker.Serves reports outcome id taken.length := by
  simp only [isCancelled, found, Option.any_some, Bool.or_eq_false_iff] at uncancelled
  refine ⟨uncancelled.1, run, found, uncancelled.2, fun value rest ahead => ?_,
    fun empty ended => ?_⟩
  · obtain ⟨more, whole⟩ := fits
    rw [← whole, ← kept.balance, ← conserved, ahead]
    simp
  · have phase := Run.phase_of_hasEnded ended
    have unheld : run.held = [] := by rw [Run.held, phase]
    have closing : run.isClosing = true := by rw [Run.isClosing, phase]
    have all := length_of_terminal fits (kept.closing.mpr closing)
    rw [← kept.balance, ← conserved, empty, unheld, List.append_nil, List.append_nil] at all
    exact all

theorem ended_of_taken {run : Run Task} {taken written produced : List ResultValue}
    (kept : Kept run written produced) (conserved : taken ++ run.buffer = written)
    (fits : produced <+: creationValues reports outcome)
    (all : taken.length = reports.length + 1) : run.hasEnded = true := by
  have length : taken.length + run.buffer.length + run.held.length = produced.length := by
    rw [← kept.balance, ← conserved, List.length_append, List.length_append]
  have bound : produced.length ≤ (creationValues reports outcome).length := fits.length_le
  have total : (creationValues reports outcome).length = reports.length + 1 := by
    simp [creationValues]
  have whole : produced = creationValues reports outcome := by
    refine fits.eq_of_length (Nat.le_antisymm bound ?_)
    rw [total]
    omega
  have closing : run.isClosing = true := by
    refine kept.closing.mp ⟨.ofOutcome .create outcome, ?_,
      isTerminal_ofOutcome .create outcome⟩
    rw [whole]
    exact List.mem_append_right _ (List.mem_singleton.mpr rfl)
  have unheld : run.held.length = 0 := by omega
  unfold Run.isClosing at closing
  split at closing
  · rename_i value delivering
    simp [Run.held, delivering] at unheld
  · rename_i phase
    simp [Run.hasEnded, phase]
  · cases closing
  · cases closing

namespace Broker

variable {broker after : Broker World Task} {turn : Turn World} {events : List Event}

/-- The transaction is still to be opened, and nobody asks for it. -/
structure Unopened (broker : Broker World Task) (id : TransactionId) : Prop where
  missing : broker.run? id = none
  unread : ∀ caller phase, ¬ broker.Reader id caller phase
  unasked : .complete id ∉ broker.queue

theorem Unopened.step (unopened : broker.Unopened id) (formed : broker.WellFormed)
    (positive : 0 < id) (taken : broker.turn? service turn = some (after, events))
    (oneByOne : broker.OneByOne id turn) :
    (∀ caller phase, ¬ after.Reader id caller phase) ∧ .complete id ∉ after.queue := by
  constructor
  · intro caller phase reader
    rcases reader.origin taken with ⟨kind, earlier, found, _⟩ | ⟨kind, asked, _⟩
    · exact unopened.unread caller earlier ⟨kind, found⟩
    · have old := (oneByOne kind asked).2.1
      rw [formed.numbered] at old
      have known := (broker.run?_isSome_iff id).mpr ⟨positive, Nat.le_of_lt_succ old⟩
      rw [unopened.missing] at known
      cases known
  · intro queued
    rcases release_step taken queued with old | ⟨_, _, _, _, _, asks, _⟩
    · exact unopened.unasked old
    · exact unopened.unread _ _ ⟨_, asks⟩

theorem creating_opened (live : broker.table.isLive id = true)
    (unread : ∀ caller phase, ¬ broker.Reader id caller phase)
    (unasked : .complete id ∉ broker.queue) : Creating reports outcome broker id 0 := by
  have none : broker.readers id = 0 := by
    rw [readers, List.countP_eq_zero]
    intro request among asks
    obtain ⟨kind, rfl⟩ := Request.asks_iff.mp asks
    obtain ⟨⟨_, phase⟩, there, rfl⟩ := List.mem_map.mp among
    obtain ⟨caller, found⟩ := List.mem_iff_getElem?.mp there
    exact unread caller phase ⟨kind, found⟩
  constructor
  case kinds => exact fun caller kind phase found => (unread caller phase ⟨kind, found⟩).elim
  case answers => exact fun caller _ reader => (unread caller _ reader).elim
  case current => exact fun caller _ reader => (unread caller _ reader).elim
  case idle =>
    intro _
    rw [none, Nat.zero_min]
  case slot =>
    refine .inl ⟨live, unasked, fun caller _ reader => (unread caller _ reader).elim, ?_, ?_⟩
    · rw [none]
      exact Nat.zero_le _
    · intro _
      rw [none]
      exact Nat.zero_le _

end Broker

variable {config : Config} {origin : Timestamp} {world : World} {thrownAway : List TransactionId}
  {moments : List (Moment World Task)} {last : Broker World Task}

theorem Trace.untouched
    (trace : Trace service (.fresh config origin world thrownAway) moments last)
    (nothing : products service id moments = []) :
    writtenTo id (history moments) = [] ∧ takes id (history moments) = [] := by
  have written : writtenTo id (history moments) = [] := by
    have kept := (List.sublist_append_left ..).trans (trace.production id)
    rwa [nothing, List.sublist_nil] at kept
  have conserved := (trace.conservation id).1
  rw [written] at conserved
  exact ⟨written, List.map_eq_nil_iff.mp (List.append_eq_nil_iff.mp conserved).1⟩

theorem Trace.creating
    (trace : Trace service (.fresh config origin world thrownAway) moments last)
    (carried : id ∉ thrownAway) (positive : 0 < id) (uncancelled : last.isCancelled id = false)
    (oneByOne : ∀ moment ∈ moments, moment.broker.OneByOne id moment.turn)
    (fits : products service id moments <+: creationValues reports outcome) :
    (last.Unopened id ∧ products service id moments = []) ∨
      ∃ run, last.run? id = some run ∧
        Kept run (writtenTo id (history moments)) (products service id moments) ∧
        last.Creating reports outcome id (takes id (history moments)).length := by
  induction trace with
  | nil =>
    left
    refine ⟨⟨?_, fun caller phase reader => ?_, fun queued => ?_⟩, rfl⟩
    · cases id <;> rfl
    · obtain ⟨_, found⟩ := reader
      cases found
    · cases queued
  | @snoc moments broker after turn events earlier taken ih =>
    have formed := earlier.wellFormed
    have before := Broker.isCancelled_step taken uncancelled
    have turn_ok : broker.OneByOne id turn :=
      oneByOne _ (List.mem_append_right _ (List.mem_singleton.mpr rfl))
    simp only [products_append, products_singleton, history_append, history_singleton,
      writtenTo_append, takes_append, List.length_append] at fits ⊢
    have ih := ih before (fun moment among => oneByOne moment (List.mem_append_left _ among))
      ((List.prefix_append ..).trans fits)
    rcases ih with ⟨unopened, nothing⟩ | ⟨run, begun, kept, creating⟩
    · have missing : (Moment.mk broker turn events).product? service id = none :=
        Moment.product?_missing unopened.missing
      obtain ⟨untaken, unwritten, begun⟩ :=
        Broker.run_begun taken formed.numbered unopened.missing
      obtain ⟨written, took⟩ := earlier.untouched nothing
      have takes_nil : takes id events = [] := takes_of_untaken untaken
      obtain ⟨unread, unasked⟩ := unopened.step formed positive taken turn_ok
      rw [missing, nothing, written, took, takes_nil, writtenTo, unwritten]
      cases begun with
      | missing missing => exact .inl ⟨⟨missing, unread, unasked⟩, rfl⟩
      | @opened operation _ _ _ next begun live =>
        refine .inr ⟨_, begun, ⟨Broker.held_opened broker operation, ?_⟩,
          Broker.creating_opened live unread unasked⟩
        have carried : broker.thrownAway.contains broker.table.nextId = false := by
          rw [earlier.thrownAway_eq, ← next]
          simpa [Broker.fresh] using carried
        simp only [Broker.opened, carried]
        exact iff_of_false (by simp) Bool.false_ne_true
      | orphaned _ _ begun =>
        simp [Broker.isCancelled, begun] at uncancelled
    · right
      obtain ⟨next, there, step⟩ := Broker.run_step taken begun
      have conserved : (takes id (history moments)).map (·.2) ++ run.buffer =
          writtenTo id (history moments) := by
        have conserved := (earlier.conservation id).1
        rwa [Broker.buffered, begun] at conserved
      have fits' := (List.prefix_append ..).trans fits
      have serves := Broker.serves_of_kept begun before kept conserved fits'
      rw [List.length_map] at serves
      refine ⟨next, there, Broker.kept_step kept begun step fun ongoing => ?_,
        creating.step formed serves taken turn_ok uncancelled⟩
      -- A run that has not ended is open: its slot is live until the outcome was read.
      rcases creating.slot with unreleased | released
      · simp [Broker.isOpen, before, Broker.isWanted, unreleased.live]
      · have all := released.all
        rw [← List.length_map (·.2)] at all
        have ended := ended_of_taken kept conserved fits' all
        rw [ongoing] at ended
        cases ended

structure CreationRead (service : Service World Task) (reports : List CreateResult)
    (outcome : Except OperationError CreateResult) (broker : Broker World Task)
    (id : TransactionId) : Prop where
  answers : ∀ caller given, broker.Reader id caller (.answered given) →
    given = creationAnswer reports outcome id (broker.rank id caller)
  live : (∀ caller given, broker.Reader id caller (.answered given) →
    broker.rank id caller < reports.length) → broker.table.isLive id = true
  released : ∀ caller given, broker.Reader id caller (.answered given) →
    reports.length ≤ broker.rank id caller →
    broker.table.isLive id = false ∨ Broker.ReleaseFirst id broker.queue
  gone : ∀ caller given due, broker.Reader id caller (.answered given) →
    reports.length ≤ broker.rank id caller → broker.dispatcher = .running due →
    broker.dispatch? service = none → broker.table.isLive id = false
  returns : ∀ (caller : CallId) (call : Call), broker.calls[caller]? = some call →
    call.request.asks id = true → call.isPending = true → broker.dispatch? service = none →
    broker.advanceRun? service id = none → broker.advanceCall? caller = none →
    broker.rank id caller ≤ reports.length ∧
      ∃ run, broker.run? id = some run ∧ Broker.Waits service broker id run

/-- A creation that reports `reports` and ends with `outcome` takes one call for every report and
one for the outcome, whatever else goes on. -/
theorem creation_read (valid : config.validate = .ok config)
    (trace : Trace service (.fresh config origin world thrownAway) moments last)
    (carried : id ∉ thrownAway) {run : Run Task} (begun : last.run? id = some run)
    (uncancelled : last.isCancelled id = false)
    (oneByOne : ∀ moment ∈ moments, moment.broker.OneByOne id moment.turn)
    (fits : products service id moments <+: creationValues reports outcome) :
    CreationRead service reports outcome last id := by
  have formed := trace.wellFormed
  have positive := ((last.run?_isSome_iff id).mp (Option.isSome_of_eq_some begun)).1
  have up : last.shutdown = false := by
    simp only [Broker.isCancelled, Bool.or_eq_false_iff] at uncancelled
    exact uncancelled.1
  rcases trace.creating carried positive uncancelled oneByOne fits with
    ⟨unopened, _⟩ | ⟨_, _, _, creating⟩
  · cases unopened.missing.symm.trans begun
  have released (caller : CallId) (given : Outcome)
      (reader : last.Reader id caller (.answered given))
      (late : reports.length ≤ last.rank id caller) :
      last.table.isLive id = false ∨ Broker.ReleaseFirst id last.queue := by
    rcases creating.slot with unreleased | released
    · exact absurd (unreleased.early caller given reader) (Nat.not_lt_of_le late)
    · refine released.gone.imp_left fun missing => ?_
      rw [Table.isLive, missing]
      rfl
  constructor
  case answers => exact creating.answers
  case live =>
    intro early
    rcases creating.slot with unreleased | released
    · exact unreleased.live
    · obtain ⟨caller, given, reader, late⟩ := released.late
      exact absurd (early caller given reader) (Nat.not_lt_of_le late)
  case released => exact released
  case gone =>
    intro caller given due reader late running blocked
    have idle := Broker.queue_of_blocked running up blocked
    rcases released caller given reader late with gone | ⟨front, back, shape, _⟩
    · exact gone
    · rw [idle] at shape
      exact absurd shape.symm (by simp)
  case returns =>
    intro caller call found asks pending still waiting blocked
    obtain ⟨due, running⟩ := Broker.accepts_of_pending formed up begun found pending
    have idle := Broker.queue_of_blocked running up still
    have room : last.hasRoom = true := by
      have config_eq : last.config = config := trace.config_eq
      have roomy := (Config.usable_of_validate valid).1
      simpa [Broker.hasRoom, idle, config_eq] using roomy
    have accepts := Broker.accepts_of_running running
    obtain ⟨kind, other, reading, reads⟩ :=
      Broker.reads_of_blocked formed up accepts idle room found pending blocked
    obtain ⟨request, phase⟩ := call
    cases reads.request
    cases reads.phase
    have same : other = id := by
      obtain ⟨_, equal⟩ := Request.asks_iff.mp asks
      cases equal
      rfl
    subst same
    have within :=
      (creating.current caller .reading ⟨kind, found⟩ fun _ equal => by cases equal).2.1
    refine ⟨within, reading, reads.found, ?_⟩
    rcases Broker.waits_of_blocked reads.found reads.ongoing waiting with waits | ⟨_, _, full⟩
    · exact waits
    · rw [reads.empty] at full
      exact absurd full (Nat.not_le_of_lt (Nat.le_max_right _ 1))

namespace Broker

def isOneByOne (broker : Broker World Task) (id : TransactionId) (turn : Turn World) : Bool :=
  match turn with
  | .input (.request (.collect kind transaction)) =>
    if transaction = id then
      decide (kind = .create) && decide (id < broker.table.nextId) &&
        broker.calls.all fun call => !call.request.asks id ||
          match call.phase with
          | .answered _ => true
          | _ => false
    else true
  | _ => true

theorem oneByOne_of_isOneByOne {broker : Broker World Task} {turn : Turn World}
    (checked : broker.isOneByOne id turn = true) : broker.OneByOne id turn := by
  rintro kind rfl
  simp only [isOneByOne, if_true, Bool.and_eq_true, decide_eq_true_eq, List.all_eq_true] at checked
  obtain ⟨⟨create, old⟩, answered⟩ := checked
  refine ⟨create, old, fun caller phase ⟨kind, found⟩ => ?_⟩
  have closed := answered _ (List.mem_of_getElem? found)
  simp only [Request.asks, BEq.rfl, Bool.not_true, Bool.false_or] at closed
  split at closed
  · exact ⟨_, rfl⟩
  · cases closed

end Broker

def booting : List (Turn Catalogue) :=
  [.input .startDispatcher, .input (.request (.initiate (.create { name := some "vm" }))),
    .move (.call 0), .move .dispatcher, .move (.call 0), .input (.request (.collect .create 1)),
    .move (.call 1), .move .dispatcher, .move (.call 1), .move (.run 1), .move (.run 1),
    .move (.run 1), .move (.call 1), .move (.run 1), .move (.run 1), .move (.run 1), .move (.run 1),
    .input (.request (.collect .create 1)), .move (.call 2), .move .dispatcher, .move (.call 2),
    .move (.call 2), .move (.call 2), .input (.request (.collect .create 1)), .move .dispatcher,
    .move (.call 3), .move .dispatcher, .move (.call 3)]

def bootPlan : Simulated.Plan := { creationSteps := ["boot"] }

theorem creation_read_booting : ∃ moments last run,
    (Broker.fresh {} ⟨0, 0⟩ {} []).follow? bootPlan.service booting = some (moments, last) ∧
    Config.validate {} = .ok {} ∧ 1 ∉ ([] : List TransactionId) ∧ last.run? 1 = some run ∧
    last.isCancelled 1 = false ∧
    (∀ moment ∈ moments, moment.broker.OneByOne 1 moment.turn) ∧
    products bootPlan.service 1 moments <+:
      creationValues [.progress "boot"] (.ok (.complete "vm")) ∧
    last.calls.map (·.phase) = [.answered (.ok (.started 1)),
      .answered (.ok (.created (.progress "boot"))), .answered (.ok (.created (.complete "vm"))),
      .answered (.error (.unknownTransaction 1))] ∧
    CreationRead bootPlan.service [.progress "boot"] (.ok (.complete "vm")) last 1 := by
  have runs : ∃ moments last run,
      (Broker.fresh {} ⟨0, 0⟩ {} []).follow? bootPlan.service booting = some (moments, last) ∧
      last.run? 1 = some run ∧ last.isCancelled 1 = false ∧
      (moments.all fun moment => moment.broker.isOneByOne 1 moment.turn) = true ∧
      products bootPlan.service 1 moments =
        creationValues [.progress "boot"] (.ok (.complete "vm")) ∧
      last.calls.map (·.phase) = [.answered (.ok (.started 1)),
        .answered (.ok (.created (.progress "boot"))), .answered (.ok (.created (.complete "vm"))),
        .answered (.error (.unknownTransaction 1))] := ⟨_, _, _, rfl, rfl, rfl, rfl, rfl, rfl⟩
  obtain ⟨moments, last, run, followed, begun, uncancelled, checked, produced, made⟩ := runs
  have oneByOne : ∀ moment ∈ moments, moment.broker.OneByOne 1 moment.turn :=
    fun moment among =>
    Broker.oneByOne_of_isOneByOne (List.all_eq_true.mp checked moment among)
  have valid : Config.validate {} = .ok {} := rfl
  have carried : 1 ∉ ([] : List TransactionId) := by simp
  have fits : products bootPlan.service 1 moments <+:
      creationValues [.progress "boot"] (.ok (.complete "vm")) := produced ▸ List.prefix_rfl
  exact ⟨moments, last, run, followed, valid, carried, begun, uncancelled, oneByOne, fits, made,
    creation_read valid (.of_follow? followed) carried begun uncancelled oneByOne fits⟩

end InstanceBroker
