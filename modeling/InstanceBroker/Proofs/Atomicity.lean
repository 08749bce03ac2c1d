import InstanceBroker.Proofs.Conclusion
import InstanceBroker.Proofs.Reference

namespace InstanceBroker.Simulated

variable {plan : Plan} {broker after : Broker Catalogue Phase} {turn : Turn Catalogue}
  {events : List Event} {id : TransactionId} {run next : Run Phase}

/-- Nothing is done to the catalogue from outside but to seed instances. -/
def Unmeddled (broker : Broker Catalogue Phase) (turn : Turn Catalogue) : Prop :=
  ∀ world, turn = .world world → ∃ name spec, world = broker.world.seed name spec

/-- A run is where its operation can be, and it was refused a report only if nobody can read what it
writes. -/
def Fits (plan : Plan) (broker : Broker Catalogue Phase) (id : TransactionId) (run : Run Phase) :
    Prop :=
  match run.phase with
  | .working phase =>
    phase.Suits plan broker.clock run.operation ∧ (phase = .refused → broker.isOpen id = false)
  | .reporting _ phase =>
    run.operation.kind = .create ∧ phase ≠ .refused ∧
      phase.Suits plan broker.clock run.operation
  | .delivering _ | .ended => True

structure Staffed (plan : Plan) (broker : Broker Catalogue Phase) : Prop where
  ascending : Catalogue.Ascending broker.world.entries
  fits : ∀ id run, broker.run? id = some run → Fits plan broker id run

theorem Fits.later (fits : Fits plan broker id run) (formed : broker.WellFormed)
    (found : broker.run? id = some run)
    (taken : broker.turn? plan.service turn = some (after, events))
    (operation : next.operation = run.operation) (phase : next.phase = run.phase) :
    Fits plan after id next := by
  have passed : broker.clock ≤ after.clock := Broker.clock_step taken
  unfold Fits at fits ⊢
  rw [operation, phase]
  cases at_ : run.phase with
  | working =>
    rw [at_] at fits
    exact ⟨fits.1.later passed, fun refused =>
      Broker.closed_kept formed taken found (fits.2 refused)⟩
  | reporting =>
    rw [at_] at fits
    exact ⟨fits.1, fits.2.1, fits.2.2.later passed⟩
  | delivering | ended => trivial

theorem Staffed.atOnce (staffed : Staffed plan broker) (found : broker.run? id = some run)
    {phase : Phase} (working : run.phase = .working phase)
    {demand : Answered run.operation.kind}
    (demands : plan.step (broker.context id) run.operation broker.world phase = demand) :
    AtOnce plan (broker.isOpen id = false) (broker.context id) broker.world run.operation phase
      demand := by
  have fits := staffed.fits id run found
  rw [Fits, working] at fits
  rw [← demands]
  apply atOnce_step staffed.ascending fits.1
  rintro (cancelled | refused)
  · have cancelled : broker.isCancelled id = true := cancelled
    simp [Broker.isOpen, cancelled]
  · exact fits.2 refused

theorem Staffed.advanced (staffed : Staffed plan broker) (formed : broker.WellFormed)
    (found : broker.run? id = some run) {world : Catalogue}
    (advances : Broker.Advances plan.service broker id run world next events)
    (taken : broker.turn? plan.service turn = some (after, events)) :
    Catalogue.Ascending world.entries ∧ Fits plan after id next := by
  have passed : broker.clock ≤ after.clock := Broker.clock_step taken
  have fits := staffed.fits id run found
  cases advances with
  | proceeded working demands =>
    obtain ⟨entries, unrefused, suits⟩ := staffed.atOnce found working demands
    exact ⟨entries ▸ staffed.ascending, suits.later passed,
      fun refused => absurd refused unrefused⟩
  | @reported _ _ _ isCreate working demands =>
    obtain ⟨unrefused, suits⟩ := staffed.atOnce found working demands
    exact ⟨staffed.ascending, isCreate, unrefused, suits.later passed⟩
  | dropped working demands | finished working demands =>
    exact ⟨(staffed.atOnce found working demands).1, trivial⟩
  | accepted reporting =>
    rw [Fits, reporting] at fits
    exact ⟨staffed.ascending, fits.2.2.later passed, fun refused => absurd refused fits.2.1⟩
  | refused reporting unwanted =>
    rw [Fits, reporting] at fits
    exact ⟨staffed.ascending, fits.1, fun _ =>
      Broker.closed_kept formed taken found (Broker.closed_of_unwanted unwanted)⟩
  | delivered | undelivered => exact ⟨staffed.ascending, trivial⟩

theorem ascending_seed (ascending : Catalogue.Ascending broker.world.entries) (name : String)
    (spec : MachineSpec) : Catalogue.Ascending (broker.world.seed name spec).entries := by
  rcases broker.world.seed_cases name spec with ⟨-, seeded⟩ | ⟨-, same⟩
  · rw [seeded]
    exact Catalogue.Ascending.put ascending _ _
  · rw [same]
    exact ascending

theorem Staffed.step (staffed : Staffed plan broker) (formed : broker.WellFormed)
    (unmeddled : Unmeddled broker turn)
    (taken : broker.turn? plan.service turn = some (after, events)) : Staffed plan after where
  ascending := by
    have turns := Broker.turns_of_turn? taken
    cases turns with
    | advanced moves advances =>
      rw [(Broker.advanced_frame ..).1]
      exact (staffed.advanced formed moves advances taken).1
    | changed =>
      obtain ⟨name, spec, rfl⟩ := unmeddled _ rfl
      exact ascending_seed staffed.ascending name spec
    | dispatched | progressed | received =>
      rw [Broker.world_step taken nofun nofun]
      exact staffed.ascending
  fits id next there := by
    cases found : broker.run? id with
    | some run =>
      obtain ⟨other, there', step⟩ := Broker.run_step taken found
      cases there.symm.trans there'
      cases step with
      | kept | read | signalled =>
        exact (staffed.fits id _ found).later formed found taken rfl rfl
      | advanced advances => exact (staffed.advanced formed found advances taken).2
    | none =>
      -- A run that begins is entering, if it is carried out at all.
      obtain ⟨-, -, begun⟩ := Broker.run_begun taken formed.numbered found
      have entering (operation : Operation) (cancelled : Bool) :
          Fits plan after id { broker.opened plan.service operation with cancelled } := by
        unfold Fits Broker.opened
        split
        · rename_i phase working
          split at working
          · cases working
          · cases working
            exact ⟨trivial, nofun⟩
        · rename_i value phase reporting
          split at reporting <;> cases reporting
        all_goals trivial
      cases begun with
      | missing missing => cases missing.symm.trans there
      | opened _ _ begun =>
        cases there.symm.trans begun
        exact entering _ false
      | orphaned _ _ begun =>
        cases there.symm.trans begun
        exact entering _ true

variable {config : Config} {origin : Timestamp} {start : Catalogue}
  {thrownAway : List TransactionId} {moments : List (Moment Catalogue Phase)}
  {last : Broker Catalogue Phase}

theorem staffed_of_trace
    (trace : Trace plan.service (.fresh config origin start thrownAway) moments last)
    (ascending : Catalogue.Ascending start.entries)
    (unmeddled : ∀ moment ∈ moments, Unmeddled moment.broker moment.turn) :
    Staffed plan last := by
  induction trace with
  | nil => exact ⟨ascending, fun id run found => by cases id <;> cases found⟩
  | snoc earlier taken ih =>
    have staffed := ih fun moment among => unmeddled moment (List.mem_append_left _ among)
    exact staffed.step earlier.wellFormed
      (unmeddled _ (List.mem_append_right _ (List.mem_singleton.mpr rfl))) taken

theorem Staffed.follows (staffed : Staffed plan broker)
    (taken : broker.turn? plan.service turn = some (after, events)) {operation : Operation}
    {outcome : Except OperationError operation.kind.Returned}
    (concluded : Concluded plan.service [⟨broker, turn, events⟩] id operation outcome) :
    (∀ error, outcome = .error error → after.world.entries = broker.world.entries) ∧
      Reference (broker.isOpen id = false) (Catalogue.portLimit ≤ broker.world.nextPort)
        broker.world.find? operation after.world.find? outcome := by
  obtain ⟨world, demanded⟩ := concluded
  obtain ⟨rfl, -⟩ := Broker.world_of_demanded taken demanded
  obtain ⟨rfl, run, phase, found, rfl, working, demands⟩ := Broker.demanded_iff.mp demanded
  exact (staffed.atOnce found working demands).2

theorem Staffed.still (staffed : Staffed plan broker)
    (taken : broker.turn? plan.service turn = some (after, events))
    (own : ∀ world, turn ≠ .world world)
    (silent : ∀ id operation outcome,
      ¬ Concluded plan.service [⟨broker, turn, events⟩] id operation outcome) :
    after.world.entries = broker.world.entries := by
  have turns := Broker.turns_of_turn? taken
  cases turns with
  | dispatched | progressed | received => rw [Broker.world_step taken nofun nofun]
  | changed => exact absurd rfl (own _)
  | @advanced id run next world _ moves advances =>
    rw [(Broker.advanced_frame ..).1]
    have returns {phase : Phase} {outcome : Except OperationError run.operation.kind.Returned}
        (working : run.phase = .working phase)
        (demands : plan.step (broker.context id) run.operation broker.world phase =
          .finish world outcome) :
        Concluded plan.service [⟨broker, .move (.run id), events⟩] id run.operation outcome :=
      ⟨world, Broker.demanded_iff.mpr ⟨rfl, run, phase, moves, rfl, working, demands⟩⟩
    cases advances with
    | proceeded working demands => exact (staffed.atOnce moves working demands).1
    | dropped working demands | finished working demands =>
      exact absurd (returns working demands) (silent _ _ _)
    | reported | accepted | refused | delivered | undelivered => rfl

inductive Sets (plan : Plan) (name : String) (moment : Moment Catalogue Phase) : Prop
  | seeded {spec : MachineSpec} (left : moment.broker.world.nextPort < Catalogue.portLimit)
      (seeds : moment.turn = .world (moment.broker.world.seed name spec))
  | created {id : TransactionId} {args : CreateArgs}
      (returned : Concluded plan.service [moment] id (.create args) (.ok (.complete name)))
  | started {id : TransactionId} {args : StartArgs} (about : args.name = name)
      (returned : Concluded plan.service [moment] id (.start args) (.ok ()))
  | deleted {id : TransactionId}
      (returned : Concluded plan.service [moment] id (.delete name) (.ok ()))

/-- The details of an instance as they were set last: by what was there at first, by seeding, by a
creation or by a start, and by nothing that came later. -/
inductive Recorded (plan : Plan) (start : Catalogue) (name : String) :
    List (Moment Catalogue Phase) → InstanceDetails → Prop
  | initial {entry : Catalogue.Entry} (found : start.find? name = some entry) :
      Recorded plan start name [] entry.details
  | seeded {moments : List (Moment Catalogue Phase)} {moment : Moment Catalogue Phase}
      {spec : MachineSpec} (left : moment.broker.world.nextPort < Catalogue.portLimit)
      (seeds : moment.turn = .world (moment.broker.world.seed name spec)) :
      Recorded plan start name (moments ++ [moment])
        (vacant name spec (.ofNat moment.broker.world.nextPort)).details
  | created {moments : List (Moment Catalogue Phase)} {moment : Moment Catalogue Phase}
      {after : Broker Catalogue Phase} {id : TransactionId} {args : CreateArgs} {port : UInt16}
      (taken : moment.broker.turn? plan.service moment.turn = some (after, moment.events))
      (returned : Concluded plan.service [moment] id (.create args) (.ok (.complete name)))
      (put : after.world.find? name = some (fitted args name port)) :
      Recorded plan start name (moments ++ [moment]) (fitted args name port).details
  | started {moments : List (Moment Catalogue Phase)} {moment : Moment Catalogue Phase}
      {id : TransactionId} {args : StartArgs} {details : InstanceDetails}
      (earlier : Recorded plan start name moments details) (about : args.name = name)
      (returned : Concluded plan.service [moment] id (.start args) (.ok ())) :
      Recorded plan start name (moments ++ [moment]) { details with spec := args.spec }
  | kept {moments : List (Moment Catalogue Phase)} {moment : Moment Catalogue Phase}
      {details : InstanceDetails} (earlier : Recorded plan start name moments details)
      (unset : ¬ Sets plan name moment) :
      Recorded plan start name (moments ++ [moment]) details

theorem held_update {before : Instances} {name other : String}
    {put : Option Catalogue.Entry} {entry : Catalogue.Entry}
    (found : Function.update before other put name = some entry) :
    name = other ∧ put = some entry ∨ before name = some entry := by
  rw [Function.update_apply] at found
  split at found
  · exact .inl ⟨‹_›, found⟩
  · exact .inr found

theorem Staffed.kept (staffed : Staffed plan broker) (unmeddled : Unmeddled broker turn)
    (taken : broker.turn? plan.service turn = some (after, events)) {name : String}
    (unset : ¬ Sets plan name ⟨broker, turn, events⟩) {entry : Catalogue.Entry}
    (found : after.world.find? name = some entry) :
    ∃ old, broker.world.find? name = some old ∧ old.details = entry.details := by
  by_cases silent : ∀ id operation outcome,
      ¬ Concluded plan.service [⟨broker, turn, events⟩] id operation outcome
  · by_cases own : ∀ world, turn ≠ .world world
    · have entries := staffed.still taken own silent
      rw [Catalogue.find?_congr entries] at found
      exact ⟨entry, found, rfl⟩
    · obtain ⟨world, seeds⟩ := not_forall_not.mp own
      obtain ⟨other, spec, rfl⟩ := unmeddled world seeds
      subst seeds
      cases taken
      rcases broker.world.seed_cases other spec with ⟨left, seeded⟩ | ⟨-, same⟩
      · have apart : name ≠ other := by
          rintro rfl
          exact unset (.seeded left rfl)
        dsimp only at found
        rw [seeded, Catalogue.find?_put, if_neg apart] at found
        exact ⟨entry, found, rfl⟩
      · dsimp only at found
        rw [same] at found
        exact ⟨entry, found, rfl⟩
  · simp only [not_forall, not_not] at silent
    obtain ⟨id, operation, outcome, concluded⟩ := silent
    have reference := (staffed.follows taken concluded).2
    generalize after.world.find? = later at reference found
    -- Only a change of this very instance matters, and of those only one that sets its details.
    cases reference with
    | cancelled | missing | alreadyRunning | notRunning | described | listed | alreadyExists
    | noPorts => exact ⟨entry, found, rfl⟩
    | @started args =>
      rcases held_update found with ⟨rfl, -⟩ | there
      · exact absurd (.started rfl concluded) unset
      · exact ⟨entry, there, rfl⟩
    | stopped before | quit before =>
      rcases held_update found with ⟨rfl, put⟩ | there
      · cases put
        exact ⟨_, before, rfl⟩
      · exact ⟨entry, there, rfl⟩
    | deleted =>
      rcases held_update found with ⟨-, put⟩ | there
      · cases put
      · exact ⟨entry, there, rfl⟩
    | created =>
      rcases held_update found with ⟨rfl, -⟩ | there
      · exact absurd (.created concluded) unset
      · exact ⟨entry, there, rfl⟩

theorem recorded_of_trace
    (trace : Trace plan.service (.fresh config origin start thrownAway) moments last)
    (ascending : Catalogue.Ascending start.entries)
    (unmeddled : ∀ moment ∈ moments, Unmeddled moment.broker moment.turn) {name : String}
    {entry : Catalogue.Entry} (found : last.world.find? name = some entry) :
    Recorded plan start name moments entry.details := by
  induction trace generalizing entry with
  | nil => exact .initial found
  | @snoc moments broker after turn events earlier taken ih =>
    have before := fun moment among => unmeddled moment (List.mem_append_left _ among)
    have turn_ok := unmeddled _ (List.mem_append_right _ (List.mem_singleton.mpr rfl))
    have staffed := staffed_of_trace earlier ascending before
    by_cases sets : Sets plan name ⟨broker, turn, events⟩
    · cases sets with
      | @seeded spec left seeds =>
        have seeds : turn = .world (broker.world.seed name spec) := seeds
        subst seeds
        cases taken
        rcases broker.world.seed_cases name spec with ⟨-, seeded⟩ | ⟨none, -⟩
        · dsimp only at found
          rw [seeded, Catalogue.find?_put, if_pos rfl] at found
          cases found
          exact .seeded left rfl
        · exact absurd left (Nat.not_lt_of_le none)
      | created returned =>
        have reference := (staffed.follows taken returned).2
        generalize later_eq : after.world.find? = later at reference
        cases reference with
        | created =>
          have put := congrFun later_eq name
          rw [Function.update_self] at put
          cases put.symm.trans found
          exact .created taken returned put
      | started about returned =>
        subst about
        have reference := (staffed.follows taken returned).2
        generalize after.world.find? = later at reference found
        cases reference with
        | started there =>
          rw [Function.update_self] at found
          cases found
          exact .started (ih before there) rfl returned
      | deleted returned =>
        have reference := (staffed.follows taken returned).2
        generalize after.world.find? = later at reference found
        cases reference with
        | deleted =>
          rw [Function.update_self] at found
          cases found
    · obtain ⟨old, there, same⟩ := staffed.kept turn_ok taken sets found
      exact same ▸ .kept (ih before there) sets

/-- The operations of a simulated service behind a broker are what the machine does, each at
once. -/
structure Atomic (plan : Plan) (config : Config) (start : Catalogue)
    (thrownAway : List TransactionId) (moments : List (Moment Catalogue Phase))
    (last : Broker Catalogue Phase) : Prop where
  still : ∀ moment ∈ moments, ∀ after,
    moment.broker.turn? plan.service moment.turn = some (after, moment.events) →
    (∀ world, moment.turn ≠ .world world) →
    (∀ id operation outcome, ¬ Concluded plan.service [moment] id operation outcome) →
    after.world.entries = moment.broker.world.entries
  follows : ∀ moment ∈ moments, ∀ after,
    moment.broker.turn? plan.service moment.turn = some (after, moment.events) →
    ∀ id operation outcome, Concluded plan.service [moment] id operation outcome →
      Reference (moment.broker.isOpen id = false)
        (Catalogue.portLimit ≤ moment.broker.world.nextPort)
        moment.broker.world.find? operation after.world.find? outcome
  unchanged : ∀ moment ∈ moments, ∀ after,
    moment.broker.turn? plan.service moment.turn = some (after, moment.events) →
    ∀ id operation error, Concluded plan.service [moment] id operation (.error error) →
      after.world.entries = moment.broker.world.entries
  once : ∀ first moment later, moments = first ++ moment :: later →
    ∀ id operation outcome, Concluded plan.service [moment] id operation outcome →
      ∀ other outcome', ¬ Concluded plan.service later id other outcome'
  asked : ∀ id operation outcome, Concluded plan.service moments id operation outcome →
    OpenedFor moments id operation
  recorded : ∀ first moment later, moments = first ++ moment :: later →
    ∀ id name details, Concluded plan.service [moment] id (.status name) (.ok details) →
      Recorded plan start name first details
  heard : ∀ (caller : CallId) id operation outcome, OpenedFor moments id operation →
    last.calls[caller]? =
      some { request := .collect operation.kind id, phase := .answered outcome } →
    Heard plan.service moments id operation outcome ∨
      takenBy caller (history moments) = [] ∧
        ∃ fault, outcome = .error fault ∧ fault.isBarren id
  /-- Who asks for the result until it is there gets it. -/
  persistent : ∀ (caller : CallId) id operation outcome, OpenedFor moments id operation →
    id ∉ thrownAway → last.isCancelled id = false →
    (∀ moment ∈ moments, moment.broker.Persistent id moment.turn) →
    last.calls[caller]? =
      some { request := .collect operation.kind id, phase := .answered outcome } →
    Heard plan.service moments id operation outcome
  pauses : config.validate = .ok config → last.Settled plan.service →
    ∀ (caller : CallId) (call : Call) id operation, OpenedFor moments id operation →
      last.calls[caller]? = some call → call.request.asks id = true → call.isPending = true →
      call.phase = .reading ∧ ∃ run phase, last.run? id = some run ∧
        run.phase = .working phase ∧ Pauses plan last.clock phase

/-- Whatever catalogue there is at first and whatever happens to the broker, its operations are
atomic and their results are what the callers get. -/
theorem atomic_of_trace
    (trace : Trace plan.service (.fresh config origin start thrownAway) moments last)
    (ascending : Catalogue.Ascending start.entries)
    (unmeddled : ∀ moment ∈ moments, Unmeddled moment.broker moment.turn) :
    Atomic plan config start thrownAway moments last := by
  have staffed (first : List (Moment Catalogue Phase)) (middle : Broker Catalogue Phase)
      (reached : Trace plan.service (.fresh config origin start thrownAway) first middle)
      (among : first ⊆ moments) : Staffed plan middle :=
    staffed_of_trace reached ascending fun moment listed => unmeddled moment (among listed)
  have staffed_at (moment : Moment Catalogue Phase) (among : moment ∈ moments) :
      Staffed plan moment.broker := by
    obtain ⟨first, later, _, rfl, before, -⟩ := trace.split among
    exact staffed first _ before (List.subset_append_left ..)
  constructor
  case still =>
    intro moment among after taken own silent
    exact (staffed_at moment among).still taken own silent
  case follows =>
    intro moment among after taken id operation outcome concluded
    exact ((staffed_at moment among).follows taken concluded).2
  case unchanged =>
    intro moment among after taken id operation error concluded
    exact ((staffed_at moment among).follows taken concluded).1 error rfl
  case once =>
    rintro first moment later rfl id operation outcome concluded other outcome'
    exact trace.concluded_once concluded outcome'
  case asked => exact fun id operation outcome => trace.openedFor_of_concluded
  case recorded =>
    rintro first moment later rfl id name details concluded
    obtain ⟨after, before, taken, -⟩ := trace.split_at
    have reference :=
      ((staffed first _ before (List.subset_append_left ..)).follows taken concluded).2
    generalize after.world.find? = world at reference
    cases reference with
    | described found =>
      exact recorded_of_trace before ascending
        (fun moment listed => unmeddled moment (List.mem_append_left _ listed)) found
  case heard => exact fun caller id operation outcome opened => trace.heard_or_barren opened
  case persistent =>
    intro caller id operation outcome opened carried uncancelled persistent
    exact trace.heard_of_persistent opened carried uncancelled persistent
  case pauses =>
    intro valid settled caller call id operation opened found asks pending
    obtain ⟨reading, run, begun, phase, working, waits⟩ :=
      trace.waits_of_pending valid settled opened found asks pending
    have still := staffed moments last trace (List.Subset.refl _)
    exact ⟨reading, run, phase, begun, working, (still.atOnce begun working waits).2⟩

def commissioning : List (Turn Catalogue) :=
  [.world (Catalogue.seed {} "vm" {}), .input .startDispatcher,
    .input (.request (.initiate (.start { name := "vm", spec := { cpus := 4 } }))),
    .move (.call 0), .move .dispatcher, .move (.call 0), .move (.run 1),
    .input (.request (.collect .start 1)), .move (.call 1), .move .dispatcher, .move (.call 1),
    .move (.run 1), .move (.call 1), .move (.call 1), .input (.request (.initiate (.status "vm"))),
    .move (.call 2), .move .dispatcher, .move .dispatcher, .move (.call 2), .move (.run 2),
    .input (.request (.collect .status 2)), .move (.call 3), .move .dispatcher, .move (.call 3),
    .move (.run 2), .move (.call 3), .move (.call 3)]

theorem atomic_commissioning : ∃ moments last,
    (Broker.fresh {} ⟨0, 0⟩ {} []).follow? (Plan.service {}) commissioning =
      some (moments, last) ∧
    Catalogue.Ascending ({} : Catalogue).entries ∧
    (∀ moment ∈ moments, Unmeddled moment.broker moment.turn) ∧
    last.calls.map (·.phase) = [.answered (.ok (.started 1)), .answered (.ok .done),
      .answered (.ok (.started 2)),
      .answered (.ok (.details
        { name := "vm"
          workload := "ubuntu"
          spec := { memMib := 2048, cpus := 4, diskGib := 60, portMappings := [], mounts := [] }
          ssh := { keyPath := "/var/lib/vm-broker/instances/vm/id_rsa", port := 10022 } }))] ∧
    Atomic {} {} {} [] moments last := by
  have runs : ∃ moments last,
      (Broker.fresh {} ⟨0, 0⟩ {} []).follow? (Plan.service {}) commissioning =
        some (moments, last) ∧
      (moments.all fun moment => match moment.turn with
        | .world world => world = moment.broker.world.seed "vm" {}
        | _ => true) = true ∧
      last.calls.map (·.phase) = [.answered (.ok (.started 1)), .answered (.ok .done),
        .answered (.ok (.started 2)),
        .answered (.ok (.details
          { name := "vm"
            workload := "ubuntu"
            spec := { memMib := 2048, cpus := 4, diskGib := 60, portMappings := [], mounts := [] }
            ssh := { keyPath := "/var/lib/vm-broker/instances/vm/id_rsa", port := 10022 } }))] :=
    ⟨_, _, rfl, rfl, rfl⟩
  obtain ⟨moments, last, followed, seeds, answers⟩ := runs
  have ascending : Catalogue.Ascending ({} : Catalogue).entries := .nil
  have unmeddled : ∀ moment ∈ moments, Unmeddled moment.broker moment.turn := by
    intro moment among world turn
    have seeded := List.all_eq_true.mp seeds moment among
    simp only [turn, decide_eq_true_eq] at seeded
    exact ⟨"vm", {}, seeded⟩
  exact ⟨moments, last, followed, ascending, unmeddled, answers,
    atomic_of_trace (.of_follow? followed) ascending unmeddled⟩

end InstanceBroker.Simulated
