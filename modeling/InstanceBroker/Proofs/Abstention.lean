import InstanceBroker.Proofs.Atomicity

namespace InstanceBroker.Simulated

variable {plan : Plan} {context : Context} {world : Catalogue} {operation : Operation}
  {phase : Phase} {left : Nat} {bare : Prop}

/-- The operation looks at its cancellation before it changes an instance. -/
def Plan.Heeds (plan : Plan) (operation : Operation) : Prop :=
  operation.kind = .create → plan.creationSteps ≠ []

/-- Where a cancelled operation can be, and how many moves it takes to its end at most. Only one
that is bare of steps registers an instance. -/
inductive BacksOut (plan : Plan) (bare : Prop) (operation : Operation) :
    Run.Phase Phase → Nat → Prop
  | entering : BacksOut plan bare operation (.working .entering) 4
  | announcing {name : String} {steps : List String} (isCreate : operation.kind = .create)
      (all : plan.creationSteps = steps) :
      BacksOut plan bare operation (.working (.announcing name steps)) 3
  | reporting {value : ResultValue} {name : String} {steps : List String}
      (isCreate : operation.kind = .create) :
      BacksOut plan bare operation (.reporting value (.announced name steps)) 2
  | refused (isCreate : operation.kind = .create) :
      BacksOut plan bare operation (.working .refused) 1
  | registering {name : String} {port : UInt16} (isCreate : operation.kind = .create)
      (allowed : bare) : BacksOut plan bare operation (.working (.registering name port)) 1
  | delayed {due : Nat} (notCreate : operation.kind ≠ .create) :
      BacksOut plan bare operation (.working (.delayed due)) 1
  | ended : BacksOut plan bare operation .ended 0

def Clashes (world : Catalogue) (operation : Operation) (error : OperationError) : Prop :=
  ∃ args, operation = .create args ∧ world.contains (world.choose args).1 = true ∧
    error = ⟨.alreadyExists, s!"Instance '{(world.choose args).1}' already exists"⟩

def Retreats (plan : Plan) (bare : Prop) (world : Catalogue) (operation : Operation) (phase : Phase)
    (left : Nat) : Answered operation.kind → Prop
  | .wait => False
  | .proceed next later =>
    next.entries = world.entries ∧
      ∃ less < left, BacksOut plan bare operation (.working later) less
  | .report _ later _ =>
    ∃ less < left, ∀ value, BacksOut plan bare operation (.reporting value later) less
  | .finish next outcome =>
    bare ∨ next.entries = world.entries ∧ ∃ error, outcome = .error error ∧
      (plan.Heeds operation →
        error = .cancelled ∨ phase = .entering ∧ Clashes world operation error)

theorem step_eq_other (notCreate : operation.kind ≠ .create) (phase : Phase) :
    plan.step context operation world phase =
      plan.other context operation notCreate world phase := by
  cases operation with
  | create => exact absurd rfl notCreate
  | start | stop | quit | delete | status | listInstances => rfl

theorem act_of_cancelled (notCreate : operation.kind ≠ .create)
    (cancelled : context.cancelled = true) :
    Plan.other.act context operation notCreate world = .finish world (.error .cancelled) := by
  rw [Plan.other.act, if_pos cancelled]

theorem retreats_other (notCreate : operation.kind ≠ .create)
    (backsOut : BacksOut plan bare operation (.working phase) left)
    (cancelled : context.cancelled = true) :
    Retreats plan bare world operation phase left
      (plan.other context operation notCreate world phase) := by
  have fails : Retreats plan bare world operation phase left (.finish world (.error .cancelled)) :=
    .inr ⟨rfl, _, rfl, fun _ => .inl rfl⟩
  cases backsOut with
  | entering =>
    simp only [Plan.other]
    split
    · exact ⟨rfl, 1, by decide, .delayed notCreate⟩
    · rw [act_of_cancelled notCreate cancelled]
      exact fails
  | delayed =>
    simp only [Plan.other, cancelled, if_true]
    exact fails
  | announcing isCreate | refused isCreate | registering isCreate => exact absurd isCreate notCreate

theorem retreats_create {args : CreateArgs}
    (backsOut : BacksOut plan bare (.create args) (.working phase) left)
    (cancelled : context.cancelled = true)
    (ported : plan.creationSteps = [] → world.nextPort < Catalogue.portLimit → bare) :
    Retreats plan bare world (.create args) phase left (plan.create context args world phase) := by
  have creates : ∀ due, phase ≠ .delayed due := by
    rintro due rfl
    cases backsOut with
    | delayed notCreate => exact notCreate rfl
  have moves := Crew.create_ne_wait plan context args world (.inr cancelled) creates
  have works : plan.Works context world (.create args) phase _ := plan.works_create args phase
  generalize plan.create context args world phase = demand at works moves
  cases works with
  | waited => exact absurd rfl moves
  | entered =>
    cases backsOut
    exact ⟨(world.choose_frame args).1, 3, by decide, .announcing rfl rfl⟩
  | clashed taken =>
    exact .inr ⟨(world.choose_frame args).1, _, rfl,
      fun _ => .inr ⟨rfl, args, rfl, taken, rfl⟩⟩
  | announced =>
    cases backsOut
    exact ⟨2, by decide, fun _ => .reporting rfl⟩
  | rested => cases backsOut
  | resumed paused => rcases paused with rfl | ⟨due, rfl⟩ <;> cases backsOut
  | ported room =>
    cases backsOut with
    | announcing _ none => exact ⟨rfl, 1, by decide, .registering rfl (ported none room)⟩
  | starved =>
    cases backsOut with
    | announcing _ none => exact .inr ⟨rfl, _, rfl, fun heeds => absurd none (heeds rfl)⟩
  | outrun | registered =>
    cases backsOut with
    | registering _ allowed => exact .inl allowed
  | interrupted => exact .inr ⟨rfl, _, rfl, fun _ => .inl rfl⟩
  | delayed notCreate | carriedOut notCreate => exact absurd rfl notCreate

theorem retreats_step (backsOut : BacksOut plan bare operation (.working phase) left)
    (cancelled : context.cancelled = true)
    (ported : operation.kind = .create → plan.creationSteps = [] →
      world.nextPort < Catalogue.portLimit → bare) :
    Retreats plan bare world operation phase left (plan.step context operation world phase) := by
  by_cases isCreate : operation.kind = .create
  · cases operation with
    | create => exact retreats_create backsOut cancelled (ported rfl)
    | start | stop | quit | delete | status | listInstances => cases isCreate
  · rw [step_eq_other isCreate]
    exact retreats_other isCreate backsOut cancelled

variable {broker after start last : Broker Catalogue Phase} {id : TransactionId}
  {run next : Run Phase} {turn : Turn Catalogue} {events : List Event}
  {moments : List (Moment Catalogue Phase)}

def Ported (plan : Plan) (bare : Prop) (operation : Operation) (world : Catalogue) : Prop :=
  operation.kind = .create → plan.creationSteps = [] →
    world.nextPort < Catalogue.portLimit → bare

theorem BacksOut.advances (backsOut : BacksOut plan bare run.operation run.phase left)
    (cancelled : broker.isCancelled id = true)
    (ported : Ported plan bare run.operation broker.world)
    (advances : Broker.Advances plan.service broker id run world next events) :
    (bare ∨ world.entries = broker.world.entries) ∧
      ∃ less < left, BacksOut plan bare next.operation next.phase less := by
  have steps {phase : Phase} {demand : Answered run.operation.kind}
      (working : run.phase = .working phase)
      (demands : plan.step (broker.context id) run.operation broker.world phase = demand) :
      Retreats plan bare broker.world run.operation phase left demand := by
    rw [working] at backsOut
    rw [← demands]
    exact retreats_step backsOut cancelled ported
  cases advances with
  | proceeded working demands =>
    obtain ⟨entries, nearer⟩ := steps working demands
    exact ⟨.inr entries, nearer⟩
  | reported working demands =>
    obtain ⟨less, fewer, reporting⟩ := steps working demands
    exact ⟨.inr rfl, less, fewer, reporting _⟩
  | dropped working demands =>
    have positive : 0 < left := by
      rw [working] at backsOut
      cases backsOut <;> decide
    exact ⟨(steps working demands).imp_right And.left, 0, positive, .ended⟩
  | refused reporting =>
    rw [reporting] at backsOut
    cases backsOut with
    | reporting isCreate => exact ⟨.inr rfl, 1, by decide, .refused isCreate⟩
  | finished _ _ wanted => cases wanted.symm.trans cancelled
  | accepted _ uncancelled | delivered _ uncancelled => cases uncancelled.symm.trans cancelled
  | undelivered delivering =>
    rw [delivering] at backsOut
    cases backsOut

theorem BacksOut.ready (backsOut : BacksOut plan bare run.operation run.phase left)
    (found : broker.run? id = some run) (cancelled : broker.isCancelled id = true)
    (ported : Ported plan bare run.operation broker.world) (ongoing : run.hasEnded = false) :
    broker.fire? plan.service (.run id) ≠ none := by
  intro blocked
  obtain ⟨phase, working, waits⟩ | ⟨-, isOpen, -⟩ :=
    Broker.waits_of_blocked found ongoing blocked
  · rw [working] at backsOut
    have retreats : Retreats plan bare broker.world run.operation phase left
        (plan.step (broker.context id) run.operation broker.world phase) :=
      retreats_step backsOut cancelled ported
    rw [show plan.step (broker.context id) run.operation broker.world phase = .wait from waits]
      at retreats
    exact retreats
  · simp [Broker.isOpen, cancelled] at isOpen

theorem BacksOut.trace (trace : Trace plan.service start moments last)
    (found : start.run? id = some run) (cancelled : start.isCancelled id = true)
    (backsOut : BacksOut plan bare run.operation run.phase left)
    (ported : ∀ moment ∈ moments, Ported plan bare run.operation moment.broker.world) :
    ∃ next less, last.run? id = some next ∧ next.operation = run.operation ∧
      BacksOut plan bare run.operation next.phase less ∧
      less + moments.countP (Moment.isOwn id) ≤ left := by
  induction trace with
  | nil => exact ⟨run, left, found, rfl, backsOut, Nat.le_refl _⟩
  | @snoc moments broker after turn events earlier taken ih =>
    obtain ⟨middle, less, there, operation, backsOut, bound⟩ :=
      ih fun moment among => ported moment (List.mem_append_left _ among)
    have ported := ported _ (List.mem_append_right _ (List.mem_singleton.mpr rfl))
    have cancelled := earlier.isCancelled_kept cancelled
    obtain ⟨next, here, step⟩ := Broker.run_step taken there
    rw [List.countP_append, List.countP_singleton]
    cases step with
    | kept other =>
      refine ⟨middle, less, here, operation, backsOut, ?_⟩
      rw [if_neg (mt Moment.isOwn_iff.mp other)]
      exact bound
    | read | signalled => exact ⟨_, less, here, operation, backsOut, bound⟩
    | advanced advances =>
      rw [← operation] at backsOut ported
      obtain ⟨-, fewer, nearer, backsOut⟩ := backsOut.advances cancelled ported advances
      rw [advances.operation_eq, operation] at backsOut
      refine ⟨next, fewer, here, advances.operation_eq.trans operation, backsOut, ?_⟩
      rw [if_pos (Moment.isOwn_iff.mpr rfl)]
      omega

theorem ported_of_heeds (heeds : plan.Heeds operation) (world : Catalogue) :
    Ported plan False operation world := fun isCreate none _ => heeds isCreate none

theorem ported_of_spent (spent : Catalogue.portLimit ≤ world.nextPort) :
    Ported plan False operation world := fun _ _ room => absurd room (Nat.not_lt_of_le spent)

theorem nextPort_landing {demand : Answered operation.kind}
    (works : plan.Works context world operation phase demand) :
    world.nextPort ≤ (Crew.landing world phase demand).1.nextPort := by
  cases works with
  | waited | announced | rested | resumed | starved | outrun | registered | interrupted
  | delayed => exact Nat.le_refl _
  | entered | clashed => exact Nat.le_of_eq (world.choose_frame _).2.symm
  | ported => exact Nat.le_succ _
  | carriedOut notCreate =>
    have carries := carries_of_carryOut world operation notCreate
    show _ ≤ (carryOut world operation notCreate).1.nextPort
    generalize carryOut world operation notCreate = done at carries
    cases carries <;> exact Nat.le_refl _

theorem nextPort_step (unmeddled : Unmeddled broker turn)
    (taken : broker.turn? plan.service turn = some (after, events)) :
    broker.world.nextPort ≤ after.world.nextPort := by
  have turns := Broker.turns_of_turn? taken
  cases turns with
  | dispatched | progressed | received => rw [Broker.world_step taken nofun nofun]
  | changed =>
    obtain ⟨name, spec, rfl⟩ := unmeddled _ rfl
    rcases broker.world.seed_cases name spec with ⟨-, seeded⟩ | ⟨-, same⟩
    · rw [seeded]
      exact Nat.le_succ _
    · rw [same]
  | @advanced id run next world _ moves advances =>
    rw [(Broker.advanced_frame ..).1]
    have lands {phase : Phase} {demand : Answered run.operation.kind}
        (demands : plan.step (broker.context id) run.operation broker.world phase = demand) :
        broker.world.nextPort ≤ (Crew.landing broker.world phase demand).1.nextPort :=
      nextPort_landing (demands ▸ plan.works_step run.operation phase)
    cases advances with
    | proceeded _ demands | dropped _ demands | finished _ demands => exact lands demands
    | reported | accepted | refused | delivered | undelivered => exact Nat.le_refl _

/-- The transaction is cancelled, and its operation has yet to enter the service. -/
structure Preempted (start : Broker Catalogue Phase) (id : TransactionId) (operation : Operation) :
    Prop where
  cancelled : start.isCancelled id = true
  entering : ∃ run, start.run? id = some run ∧ run.operation = operation ∧
    run.phase = .working .entering

/-- The operation enters the service, and then anything may happen but that somebody else changes
the catalogue. -/
structure Entered (plan : Plan) (start : Broker Catalogue Phase) (id : TransactionId)
    (moments : List (Moment Catalogue Phase)) (last : Broker Catalogue Phase) : Prop where
  trace : Trace plan.service start moments last
  enters : ∃ events later, moments = ⟨start, .move (.run id), events⟩ :: later
  unmeddled : ∀ moment ∈ moments, Unmeddled moment.broker moment.turn

structure Ends (plan : Plan) (start : Broker Catalogue Phase) (id : TransactionId)
    (operation : Operation) : Prop where
  prompt : ∀ moments last, Entered plan start id moments last →
    ∀ run, last.run? id = some run →
    run.hasEnded = false → last.fire? plan.service (.run id) ≠ none
  brief : ∀ moments last, Entered plan start id moments last →
    moments.countP (Moment.isOwn id) ≤ 4
  returns : ∀ moments last, Entered plan start id moments last →
    ∀ run, last.run? id = some run →
    run.hasEnded = true → ∃ outcome, Concluded plan.service moments id operation outcome

/-- The operation fails, and none of its moves changes an instance. -/
structure Abstains (plan : Plan) (start : Broker Catalogue Phase) (id : TransactionId)
    (operation : Operation) : Prop extends Ends plan start id operation where
  fails : ∀ moments last, Entered plan start id moments last → ∀ outcome,
    Concluded plan.service moments id operation outcome → ∃ error, outcome = .error error
  untouched : ∀ moments last, Entered plan start id moments last → ∀ moment ∈ moments,
    moment.turn = .move (.run id) → ∀ after,
    moment.broker.turn? plan.service moment.turn = some (after, moment.events) →
    after.world.entries = moment.broker.world.entries

structure Forestalled (plan : Plan) (start : Broker Catalogue Phase) (id : TransactionId)
    (operation : Operation) : Prop where
  ends : Ends plan start id operation
  /-- One that looks at its cancellation fails with it, unless the name of a creation is taken. -/
  cause : plan.Heeds operation → ∀ moments last, Entered plan start id moments last →
    ∀ outcome, Concluded plan.service moments id operation outcome →
    ∃ error, outcome = .error error ∧
      (error = ⟨.cancelled, "Operation cancelled"⟩ ∨ Clashes start.world operation error)
  /-- A creation that does not is carried out where nothing else is in its way. -/
  slips : ∀ args, operation = .create args → plan.creationSteps = [] →
    start.world.contains (start.world.choose args).1 = false →
    start.world.nextPort < Catalogue.portLimit → ∃ moments last,
      Entered plan start id moments last ∧
      Concluded plan.service moments id (.create args)
        (.ok (.complete (start.world.choose args).1)) ∧
      last.world.find? (start.world.choose args).1 =
        some (fitted args (start.world.choose args).1 (.ofNat start.world.nextPort))
  exact : Abstains plan start id operation ↔ plan.Heeds operation ∨
    ∃ args, operation = .create args ∧
      (start.world.contains (start.world.choose args).1 = true ∨
        Catalogue.portLimit ≤ start.world.nextPort)

theorem Entered.underway (entered : Entered plan start id moments last)
    (preempted : Preempted start id operation)
    (ported : ∀ moment ∈ moments, Ported plan bare operation moment.broker.world)
    {moment : Moment Catalogue Phase} (among : moment ∈ moments) :
    ∃ run left, moment.broker.run? id = some run ∧ run.operation = operation ∧
      BacksOut plan bare operation run.phase left ∧ moment.broker.isCancelled id = true ∧
      (run.phase = .working .entering → moment.broker = start) := by
  obtain ⟨run, found, rfl, entering⟩ := preempted.entering
  obtain ⟨first, later, _, rfl, before, -, -⟩ := entered.trace.split among
  have start_ : BacksOut plan bare run.operation run.phase 4 := entering ▸ .entering
  obtain ⟨next, less, there, operation, backsOut, bound⟩ := start_.trace before found
    preempted.cancelled fun moment listed => ported moment (List.mem_append_left _ listed)
  refine ⟨next, less, there, operation, backsOut,
    before.isCancelled_kept preempted.cancelled, ?_⟩
  intro still
  cases first with
  | nil => exact before.eq_of_nil
  | cons head rest =>
    -- It has moved before, so that fewer than four moves are left.
    obtain ⟨events, later, same⟩ := entered.enters
    cases same
    rw [still] at backsOut
    cases backsOut
    rw [List.countP_cons_of_pos (Moment.isOwn_iff.mpr rfl)] at bound
    omega

theorem Entered.abstained (entered : Entered plan start id moments last)
    (preempted : Preempted start id operation)
    (ported : ∀ moment ∈ moments, Ported plan False operation moment.broker.world) :
    (∀ outcome, Concluded plan.service moments id operation outcome →
      ∃ error, outcome = .error error ∧
        (plan.Heeds operation → error = .cancelled ∨ Clashes start.world operation error)) ∧
    ∀ moment ∈ moments, moment.turn = .move (.run id) → ∀ after,
      moment.broker.turn? plan.service moment.turn = some (after, moment.events) →
      after.world.entries = moment.broker.world.entries := by
  constructor
  · rintro outcome ⟨world, moment, among, -, run, phase, found, rfl, working, demands⟩
    obtain ⟨run', left, found', operation, backsOut, cancelled, first⟩ :=
      entered.underway preempted ported among
    cases found.symm.trans found'
    rw [working] at backsOut
    have retreats : Retreats plan False moment.broker.world run.operation phase left
        (plan.step (moment.broker.context id) run.operation moment.broker.world phase) :=
      retreats_step backsOut cancelled (ported moment among)
    rw [show plan.step _ _ moment.broker.world phase = _ from demands] at retreats
    obtain impossible | ⟨-, error, failed, cause⟩ := retreats
    · exact impossible.elim
    · refine ⟨error, failed, fun heeds => (cause heeds).imp_right ?_⟩
      rintro ⟨rfl, clashes⟩
      exact first working ▸ clashes
  · intro moment among own after taken
    obtain ⟨run, left, found, rfl, backsOut, cancelled, -⟩ :=
      entered.underway preempted ported among
    have turns := Broker.turns_of_turn? taken
    rw [own] at turns
    generalize moment.events = events at turns
    cases turns with
    | advanced moves advances =>
      cases found.symm.trans moves
      obtain ⟨impossible | entries, -⟩ :=
        backsOut.advances cancelled (ported moment among) advances
      · exact impossible.elim
      · rw [(Broker.advanced_frame ..).1]
        exact entries

theorem ends_of_preempted (preempted : Preempted start id operation) :
    Ends plan start id operation := by
  obtain ⟨run, found, rfl, entering⟩ := preempted.entering
  have start_ : BacksOut plan True run.operation run.phase 4 := entering ▸ .entering
  have ported (world : Catalogue) : Ported plan True run.operation world := fun _ _ _ => trivial
  constructor
  · intro moments last entered next there ongoing
    obtain ⟨next', less, there', operation, backsOut, -⟩ :=
      start_.trace entered.trace found preempted.cancelled fun moment _ => ported _
    cases there.symm.trans there'
    rw [← operation] at backsOut
    exact backsOut.ready there (entered.trace.isCancelled_kept preempted.cancelled)
      (fun _ _ _ => trivial) ongoing
  · intro moments last entered
    obtain ⟨-, less, -, -, -, bound⟩ :=
      start_.trace entered.trace found preempted.cancelled fun moment _ => ported _
    exact Nat.le_trans (Nat.le_add_left ..) bound
  · intro moments last entered next there ended
    refine entered.trace.concluded_of_closing found ?_ there ?_
    · rw [Run.isClosing, entering]
    · rw [Run.isClosing, Run.phase_of_hasEnded ended]

theorem Entered.spent (entered : Entered plan start id moments last)
    (spent : Catalogue.portLimit ≤ start.world.nextPort) :
    ∀ moment ∈ moments, Catalogue.portLimit ≤ moment.broker.world.nextPort := by
  have grows {moments : List (Moment Catalogue Phase)} {last : Broker Catalogue Phase}
      (trace : Trace plan.service start moments last)
      (unmeddled : ∀ moment ∈ moments, Unmeddled moment.broker moment.turn) :
      start.world.nextPort ≤ last.world.nextPort := by
    induction trace with
    | nil => exact Nat.le_refl _
    | snoc earlier taken ih =>
      have before := ih fun moment among => unmeddled moment (List.mem_append_left _ among)
      have own := unmeddled _ (List.mem_append_right _ (List.mem_singleton.mpr rfl))
      exact Nat.le_trans before (nextPort_step own taken)
  intro moment among
  obtain ⟨first, later, _, rfl, before, -, -⟩ := entered.trace.split among
  refine Nat.le_trans spent (grows before fun moment listed => ?_)
  exact entered.unmeddled moment (List.mem_append_left _ listed)

variable {args : CreateArgs}

theorem create_entering (context : Context) (args : CreateArgs) (world : Catalogue) :
    plan.create context args world .entering =
      if world.contains (world.choose args).1 then
        .finish (world.choose args).2 (.error (.alreadyExists (world.choose args).1))
      else .proceed (world.choose args).2
        (.announcing (world.choose args).1 plan.creationSteps) := by
  have entries : (world.choose args).2.contains (world.choose args).1 =
      world.contains (world.choose args).1 := by
    rw [Catalogue.contains, Catalogue.find?_congr (world.choose_frame args).1]
    rfl
  rw [← entries]
  rfl

theorem Entered.clashed (entered : Entered plan start id moments last)
    (preempted : Preempted start id (.create args))
    (taken : start.world.contains (start.world.choose args).1 = true) :
    (∀ outcome, Concluded plan.service moments id (.create args) outcome →
      ∃ error, outcome = .error error) ∧
    ∀ moment ∈ moments, moment.turn = .move (.run id) → ∀ after,
      moment.broker.turn? plan.service moment.turn = some (after, moment.events) →
      after.world.entries = moment.broker.world.entries := by
  have fails : plan.service.step (start.context id) (.create args) start.world .entering =
      .finish (start.world.choose args).2
        (.error (.alreadyExists (start.world.choose args).1)) := by
    show plan.create (start.context id) args start.world .entering = _
    rw [create_entering, if_pos taken]
    rfl
  obtain ⟨⟨operation, buffer, own, phase⟩, found, same, entering⟩ := preempted.entering
  cases same
  obtain ⟨ended, only, there, catalogue⟩ :=
    Broker.turn?_of_finish found entering preempted.cancelled fails
  obtain ⟨events, later, rfl⟩ := entered.enters
  obtain ⟨-, after, fired, rest⟩ := entered.trace.split_head
  cases only.symm.trans fired
  -- Nothing is left to do for the run.
  have silent : ∀ moment ∈ later, moment.turn ≠ .move (.run id) := by
    intro moment among turn
    have backsOut : BacksOut plan True (.create args) .ended 0 := .ended
    obtain ⟨-, less, -, -, -, bound⟩ := backsOut.trace rest there
      (Broker.isCancelled_kept fired preempted.cancelled) fun _ _ _ _ _ => trivial
    have own := List.countP_pos_iff.mpr ⟨moment, among, Moment.isOwn_iff.mpr turn⟩
    omega
  constructor
  · rintro outcome ⟨world, moment, among, turn, run, task, found', operation, working, demands⟩
    rcases List.mem_cons.mp among with rfl | among
    · cases found.symm.trans found'
      cases entering.symm.trans working
      cases fails.symm.trans demands
      exact ⟨_, rfl⟩
    · exact absurd turn (silent moment among)
  · intro moment among turn after' taken'
    rcases List.mem_cons.mp among with rfl | among
    · cases fired.symm.trans taken'
      rw [catalogue]
      exact (start.world.choose_frame args).1
    · exact absurd turn (silent moment among)

theorem create_announced (plan : Plan) (context : Context) (args : CreateArgs) (name : String)
    (room : world.nextPort < Catalogue.portLimit) :
    plan.create context args world (.announcing name []) =
      .proceed world.withPortTaken (.registering name (.ofNat world.nextPort)) := by
  obtain ⟨-, taken⟩ | ⟨spent, -⟩ := world.takePort_cases
  · simp only [Plan.create, taken]
  · exact absurd room (Nat.not_lt_of_le spent)

theorem create_registering (plan : Plan) (context : Context) (args : CreateArgs) {name : String}
    (port : UInt16) (free : world.contains name = false) :
    plan.create context args world (.registering name port) =
      .finish (world.put name (fitted args name port)) (.ok (.complete name)) := by
  simp only [Plan.create, Catalogue.register, Catalogue.describe, free, Bool.false_eq_true,
    if_false]
  rfl

theorem slips_of_preempted (preempted : Preempted start id (.create args))
    (stepless : plan.creationSteps = [])
    (free : start.world.contains (start.world.choose args).1 = false)
    (room : start.world.nextPort < Catalogue.portLimit) :
    ∃ moments last, Entered plan start id moments last ∧
      Concluded plan.service moments id (.create args)
        (.ok (.complete (start.world.choose args).1)) ∧
      last.world.find? (start.world.choose args).1 =
        some (fitted args (start.world.choose args).1 (.ofNat start.world.nextPort)) := by
  obtain ⟨⟨operation, buffer, own, phase⟩, found, same, entering⟩ := preempted.entering
  cases same
  obtain ⟨entries, port⟩ := start.world.choose_frame args
  have enters : plan.service.step (start.context id) (.create args) start.world .entering =
      .proceed (start.world.choose args).2 (.announcing (start.world.choose args).1 []) := by
    show plan.create (start.context id) args start.world .entering = _
    rw [create_entering, free, stepless]
    rfl
  obtain ⟨first, entered, found₁, world₁⟩ := Broker.turn?_of_proceed found entering enters
  rw [← port, ← world₁] at room ⊢
  have announces : plan.service.step (first.context id) (.create args) first.world
      (.announcing (start.world.choose args).1 []) = .proceed first.world.withPortTaken
        (.registering (start.world.choose args).1 (.ofNat first.world.nextPort)) :=
    create_announced plan (first.context id) args _ room
  obtain ⟨second, announced, found₂, world₂⟩ :=
    Broker.turn?_of_proceed found₁ rfl announces
  have unused : second.world.contains (start.world.choose args).1 = false := by
    have same : second.world.entries = start.world.entries := by
      rw [world₂, world₁]
      exact entries
    rw [Catalogue.contains, Catalogue.find?_congr same]
    exact free
  have registers : plan.service.step (second.context id) (.create args) second.world
      (.registering (start.world.choose args).1 (.ofNat first.world.nextPort)) = .finish _ _ :=
    create_registering plan (second.context id) args _ unused
  have cancelled := Broker.isCancelled_kept announced
    (Broker.isCancelled_kept entered preempted.cancelled)
  obtain ⟨last, registered, -, world₃⟩ :=
    Broker.turn?_of_finish found₂ rfl cancelled registers
  refine ⟨_, last,
    ⟨((Trace.single entered).snoc announced).snoc registered, ⟨_, _, rfl⟩, ?_⟩, ?_, ?_⟩
  · intro moment among world own
    simp only [List.cons_append, List.nil_append, List.mem_cons, List.not_mem_nil,
      or_false] at among
    rcases among with rfl | rfl | rfl <;> cases own
  · exact ⟨_, ⟨second, .move (.run id), [.ended id]⟩, by simp, rfl, _, _, found₂, rfl, rfl,
    registers⟩
  · rw [world₃, Catalogue.find?_put, if_pos rfl]

/-- Whatever the operation is, it returns without waiting; and it abstains exactly if it looks at
its cancellation or is a creation that cannot succeed. -/
theorem forestalled_of_preempted (preempted : Preempted start id operation) :
    Forestalled plan start id operation := by
  have ends : Ends plan start id operation := ends_of_preempted preempted
  constructor
  case ends => exact ends
  case cause =>
    intro heeds moments last entered outcome concluded
    obtain ⟨error, failed, cause⟩ :=
      (entered.abstained preempted fun _ _ => ported_of_heeds heeds _).1 outcome concluded
    exact ⟨error, failed, cause heeds⟩
  case slips =>
    rintro args rfl stepless free room
    exact slips_of_preempted preempted stepless free room
  case exact =>
    constructor
    · intro abstains
      by_contra neither
      obtain ⟨heedless, unhindered⟩ := not_or.mp neither
      obtain ⟨isCreate, stepless⟩ := Classical.not_imp.mp heedless
      cases operation with
      | create args =>
        have free : start.world.contains (start.world.choose args).1 = false := by
          rw [← Bool.not_eq_true]
          exact fun taken => unhindered ⟨args, rfl, .inl taken⟩
        have room : start.world.nextPort < Catalogue.portLimit := by
          rw [← Nat.not_le]
          exact fun spent => unhindered ⟨args, rfl, .inr spent⟩
        obtain ⟨moments, last, entered, concluded, -⟩ :=
          slips_of_preempted preempted (not_not.mp stepless) free room
        obtain ⟨error, failed⟩ := abstains.fails moments last entered _ concluded
        cases failed
      | start | stop | quit | delete | status | listInstances => cases isCreate
    · intro cause
      have abstained (moments : List (Moment Catalogue Phase)) (last : Broker Catalogue Phase)
          (entered : Entered plan start id moments last) :
          (∀ outcome, Concluded plan.service moments id operation outcome →
            ∃ error, outcome = .error error) ∧
          ∀ moment ∈ moments, moment.turn = .move (.run id) → ∀ after,
            moment.broker.turn? plan.service moment.turn = some (after, moment.events) →
            after.world.entries = moment.broker.world.entries := by
        have unported (ported : ∀ moment ∈ moments,
            Ported plan False operation moment.broker.world) :=
          (entered.abstained preempted ported).imp_left fun fails outcome concluded =>
            (fails outcome concluded).imp fun _ => And.left
        rcases cause with heeds | ⟨args, rfl, taken | spent⟩
        · exact unported fun _ _ => ported_of_heeds heeds _
        · exact entered.clashed preempted taken
        · exact unported fun moment among => ported_of_spent (entered.spent spent moment among)
      exact { ends with
        fails := fun moments last entered => (abstained moments last entered).1
        untouched := fun moments last entered => (abstained moments last entered).2 }

def orphaning : List (Turn Catalogue) :=
  [.input (.request (.initiate (.create { name := "vm" }))), .move (.call 0), .input (.abandon 0),
    .input .startDispatcher, .move .dispatcher]

theorem forestalled_orphaning : ∃ moments start,
    (Broker.fresh {} ⟨0, 0⟩ {} []).follow?
      (Plan.service { creationSteps := ["boot"], stepDelay := .ofSeconds 30 }) orphaning =
      some (moments, start) ∧
    Preempted start 1 (.create { name := "vm" }) ∧
    Forestalled { creationSteps := ["boot"], stepDelay := .ofSeconds 30 } start 1
      (.create { name := "vm" }) := by
  have runs : ∃ moments start, (Broker.fresh {} ⟨0, 0⟩ {} []).follow?
      (Plan.service { creationSteps := ["boot"], stepDelay := .ofSeconds 30 }) orphaning =
        some (moments, start) ∧ Preempted start 1 (.create { name := "vm" }) :=
    ⟨_, _, rfl, rfl, _, rfl, rfl, rfl⟩
  obtain ⟨moments, start, followed, preempted⟩ := runs
  exact ⟨moments, start, followed, preempted, forestalled_of_preempted preempted⟩

/-- Without steps it is carried out, although nobody wants the instance any more. -/
theorem not_abstains_orphaning : ∃ moments start,
    (Broker.fresh {} ⟨0, 0⟩ {} []).follow? (Plan.service { creationSteps := [] }) orphaning =
      some (moments, start) ∧
    Preempted start 1 (.create { name := "vm" }) ∧
    ¬ Abstains { creationSteps := [] } start 1 (.create { name := "vm" }) := by
  have runs : ∃ moments start,
      (Broker.fresh {} ⟨0, 0⟩ {} []).follow? (Plan.service { creationSteps := [] }) orphaning =
        some (moments, start) ∧ Preempted start 1 (.create { name := "vm" }) ∧
      start.world = {} := ⟨_, _, rfl, ⟨rfl, _, rfl, rfl, rfl⟩, rfl⟩
  obtain ⟨moments, start, followed, preempted, empty⟩ := runs
  have stepless : ({ creationSteps := [] } : Plan).creationSteps = [] := rfl
  refine ⟨moments, start, followed, preempted, fun abstains => ?_⟩
  obtain ⟨moments, last, entered, concluded, -⟩ :=
    slips_of_preempted preempted stepless (by rw [empty]; rfl) (by rw [empty]; decide)
  obtain ⟨error, failed⟩ := abstains.fails moments last entered _ concluded
  cases failed

end InstanceBroker.Simulated
