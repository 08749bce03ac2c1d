import Mathlib.Logic.Function.Basic
import InstanceBroker.Proofs.Naming

namespace InstanceBroker.Simulated

abbrev Instances := String → Option Catalogue.Entry

/-- The name is the one that was asked for, or one that was made up because none was. -/
def Names (args : CreateArgs) (name : String) : Prop :=
  args.name = some name ∨ args.name = none ∧ ∃ number, name = madeUp number

def target? : Operation → Option String
  | .start args => some args.name
  | .stop name | .quit name | .delete name | .status name => some name
  | .create _ | .listInstances => none

/-- What an operation does to the instances and what it returns. It may be cut short, and there may
be no ports left. -/
inductive Reference (cut spent : Prop) (before : Instances) :
    (operation : Operation) → Instances → Except OperationError operation.kind.Returned → Prop
  | cancelled {operation : Operation} (cause : cut) :
      Reference cut spent before operation before (.error ⟨.cancelled, "Operation cancelled"⟩)
  | missing {operation : Operation} {name : String} (about : target? operation = some name)
      (absent : before name = none) :
      Reference cut spent before operation before
        (.error ⟨.notFound, s!"Instance '{name}' not found"⟩)
  | alreadyRunning {args : StartArgs} {entry : Catalogue.Entry}
      (found : before args.name = some entry) (running : entry.running = true) :
      Reference cut spent before (.start args) before
        (.error ⟨.backend, s!"Instance '{args.name}' is already running"⟩)
  | started {args : StartArgs} {entry : Catalogue.Entry}
      (found : before args.name = some entry) (stopped : entry.running = false) :
      Reference cut spent before (.start args)
        (Function.update before args.name
          (some { details := { entry.details with spec := args.spec }, running := true })) (.ok ())
  | notRunning {name : String} {entry : Catalogue.Entry} (found : before name = some entry)
      (stopped : entry.running = false) :
      Reference cut spent before (.stop name) before
        (.error ⟨.backend, s!"Instance '{name}' is not running"⟩)
  | stopped {name : String} {entry : Catalogue.Entry} (found : before name = some entry)
      (running : entry.running = true) :
      Reference cut spent before (.stop name)
        (Function.update before name (some { entry with running := false })) (.ok ())
  | quit {name : String} {entry : Catalogue.Entry} (found : before name = some entry) :
      Reference cut spent before (.quit name)
        (Function.update before name (some { entry with running := false })) (.ok ())
  | deleted {name : String} {entry : Catalogue.Entry} (found : before name = some entry) :
      Reference cut spent before (.delete name) (Function.update before name none) (.ok ())
  | described {name : String} {entry : Catalogue.Entry} (found : before name = some entry) :
      Reference cut spent before (.status name) before (.ok entry.details)
  | listed {names : List String} (ascending : names.Pairwise (· < ·))
      (complete : ∀ name, name ∈ names ↔ before name ≠ none) :
      Reference cut spent before .listInstances before (.ok names)
  | alreadyExists {args : CreateArgs} {name : String} (named : Names args name)
      (taken : before name ≠ none) :
      Reference cut spent before (.create args) before
        (.error ⟨.alreadyExists, s!"Instance '{name}' already exists"⟩)
  | noPorts {args : CreateArgs} (none : spent) :
      Reference cut spent before (.create args) before
        (.error ⟨.backend, "No SSH ports left to forward"⟩)
  | created {args : CreateArgs} {name : String} {port : UInt16} (named : Names args name)
      (free : before name = none) :
      Reference cut spent before (.create args)
        (Function.update before name (some (fitted args name port))) (.ok (.complete name))

theorem Reference.unchanged {cut spent : Prop} {before after : Instances} {operation : Operation}
    {error : OperationError}
    (reference : Reference cut spent before operation after (.error error)) : after = before := by
  cases reference <;> rfl

end InstanceBroker.Simulated

namespace InstanceBroker.Catalogue

variable {catalogue : Catalogue} {name : String} {entry : Entry}

theorem find?_put_eq (catalogue : Catalogue) (name : String) (entry : Entry) :
    (catalogue.put name entry).find? = Function.update catalogue.find? name (some entry) := by
  funext other
  rw [find?_put, Function.update_apply]

theorem find?_erase_eq (catalogue : Catalogue) (name : String) :
    (catalogue.erase name).find? = Function.update catalogue.find? name none := by
  funext other
  rw [find?_erase, Function.update_apply]

theorem find?_congr {other : Catalogue} (same : other.entries = catalogue.entries) :
    other.find? = catalogue.find? := by
  funext name
  rw [find?, find?, same]

theorem find?_of_free (free : catalogue.contains name = false) : catalogue.find? name = none := by
  simpa [contains] using free

theorem find?_of_taken (taken : catalogue.contains name = true) :
    catalogue.find? name ≠ none := by
  simpa [contains, Option.isSome_iff_ne_none] using taken

theorem seed_cases (catalogue : Catalogue) (name : String) (spec : MachineSpec) :
    (catalogue.nextPort < portLimit ∧ catalogue.seed name spec =
      catalogue.withPortTaken.put name
        (Simulated.vacant name spec (.ofNat catalogue.nextPort))) ∨
    (portLimit ≤ catalogue.nextPort ∧ catalogue.seed name spec = catalogue) := by
  unfold seed
  obtain ⟨left, taken⟩ | ⟨none, failed⟩ := catalogue.takePort_cases
  · rw [taken]
    exact .inl ⟨left, rfl⟩
  · rw [failed]
    exact .inr ⟨none, rfl⟩

theorem mem_names_iff (catalogue : Catalogue) (name : String) :
    name ∈ catalogue.names ↔ catalogue.find? name ≠ none := by
  have absent :
      catalogue.find? name = none ↔ ∀ item ∈ catalogue.entries, name ≠ item.1 := by
    simp [find?, List.lookup_eq_none_iff]
  rw [Ne, absent]
  simp [names, eq_comm]

end InstanceBroker.Catalogue

namespace InstanceBroker.Simulated

variable {plan : Plan} {context : Context} {world : Catalogue} {operation : Operation}
  {phase : Phase} {cut spent : Prop}

theorem reference_existing {name : String} {error : OperationError}
    (failed : world.existing name = .error error) (about : target? operation = some name) :
    Reference cut spent world.find? operation world.find? (.error error) := by
  obtain ⟨rfl, absent⟩ := Catalogue.existing_eq_error failed
  exact .missing about (Catalogue.find?_of_free absent)

theorem reference_carryOut (ascending : Catalogue.Ascending world.entries)
    (notCreate : operation.kind ≠ .create) :
    Reference cut spent world.find? operation (carryOut world operation notCreate).1.find?
      (carryOut world operation notCreate).2 := by
  cases operation with
  | create => exact absurd rfl notCreate
  | start args =>
    simp only [carryOut, Catalogue.start, bind, Except.bind]
    cases there : world.existing args.name with
    | error => exact reference_existing there rfl
    | ok entry =>
      have found := Catalogue.existing_eq_ok_iff.mp there
      cases running : entry.running with
      | true =>
        simp only [running, if_true]
        exact .alreadyRunning found running
      | false =>
        simp only [running]
        show Reference cut spent world.find? (.start args) (world.put args.name _).find? (.ok ())
        rw [Catalogue.find?_put_eq]
        exact .started found running
  | stop name =>
    simp only [carryOut, Catalogue.stop, bind, Except.bind]
    cases there : world.existing name with
    | error => exact reference_existing there rfl
    | ok entry =>
      have found := Catalogue.existing_eq_ok_iff.mp there
      cases running : entry.running with
      | true =>
        simp only [running]
        show Reference cut spent world.find? (.stop name) (world.put name _).find? (.ok ())
        rw [Catalogue.find?_put_eq]
        exact .stopped found running
      | false =>
        simp only [running, Bool.not_false, if_true]
        exact .notRunning found running
  | quit name =>
    simp only [carryOut, Catalogue.quit, bind, Except.bind]
    cases there : world.existing name with
    | error => exact reference_existing there rfl
    | ok entry =>
      show Reference cut spent world.find? (.quit name) (world.put name _).find? (.ok ())
      rw [Catalogue.find?_put_eq]
      exact .quit (Catalogue.existing_eq_ok_iff.mp there)
  | delete name =>
    simp only [carryOut, Catalogue.delete, bind, Except.bind]
    cases there : world.existing name with
    | error => exact reference_existing there rfl
    | ok entry =>
      show Reference cut spent world.find? (.delete name) (world.erase name).find? (.ok ())
      rw [Catalogue.find?_erase_eq]
      exact .deleted (Catalogue.existing_eq_ok_iff.mp there)
  | status name =>
    simp only [carryOut, Catalogue.status, bind, Except.bind]
    cases there : world.existing name with
    | error => exact reference_existing there rfl
    | ok entry => exact .described (Catalogue.existing_eq_ok_iff.mp there)
  | listInstances =>
    have sorted : world.names.Pairwise (· < ·) := ascending.map _ fun _ _ less => less
    exact .listed sorted world.mem_names_iff

theorem carryOut_kept (ascending : Catalogue.Ascending world.entries)
    (notCreate : operation.kind ≠ .create) :
    Catalogue.Ascending (carryOut world operation notCreate).1.entries ∧
      ∀ error, (carryOut world operation notCreate).2 = .error error →
        (carryOut world operation notCreate).1.entries = world.entries := by
  have carries := carries_of_carryOut world operation notCreate
  generalize carryOut world operation notCreate = done at carries
  cases carries with
  | failed | read => exact ⟨ascending, fun _ _ => rfl⟩
  | amended => exact ⟨ascending.put _ _, nofun⟩
  | deleted => exact ⟨ascending.erase _, nofun⟩

def Phase.Suits (plan : Plan) (now : Nat) (operation : Operation) : Phase → Prop
  | .entering => True
  | .delayed due => operation.kind ≠ .create ∧ due ≤ now + plan.operationDelay.nanos
  | .refused => operation.kind = .create
  | .announcing name _ | .announced name _ | .registering name _ =>
    ∃ args, operation = .create args ∧ Names args name
  | .resting name _ due =>
    (∃ args, operation = .create args ∧ Names args name) ∧ due ≤ now + plan.stepDelay.nanos

theorem Phase.Suits.later {now later : Nat} (suits : phase.Suits plan now operation)
    (passed : now ≤ later) : phase.Suits plan later operation := by
  cases phase with
  | entering | refused | announcing | announced | registering => exact suits
  | delayed => exact ⟨suits.1, by have := suits.2; omega⟩
  | resting => exact ⟨suits.1, by have := suits.2; omega⟩

def Pauses (plan : Plan) (now : Nat) (phase : Phase) : Prop :=
  ∃ due, now < due ∧
    (phase = .delayed due ∧ due ≤ now + plan.operationDelay.nanos ∨
      ∃ name steps, phase = .resting name steps due ∧ due ≤ now + plan.stepDelay.nanos)

/-- What a step comes to: nothing that can be seen in the catalogue, or the operation as a whole. -/
def AtOnce (plan : Plan) (cut : Prop) (context : Context) (world : Catalogue)
    (operation : Operation) (phase : Phase) : Answered operation.kind → Prop
  | .wait => context.cancelled = false ∧ Pauses plan context.now phase
  | .proceed next later =>
    next.entries = world.entries ∧ later ≠ .refused ∧ later.Suits plan context.now operation
  | .report _ later _ => later ≠ .refused ∧ later.Suits plan context.now operation
  | .finish next outcome =>
    Catalogue.Ascending next.entries ∧
      (∀ error, outcome = .error error → next.entries = world.entries) ∧
      Reference cut (Catalogue.portLimit ≤ world.nextPort) world.find? operation
        next.find? outcome

theorem names_choose (world : Catalogue) (args : CreateArgs) :
    Names args (world.choose args).1 := by
  rcases world.choose_cases args with ⟨name, given, chosen⟩ | ⟨unnamed, chosen⟩
  · rw [chosen]
    exact .inl given
  · rw [chosen]
    exact .inr ⟨unnamed, _, rfl⟩

theorem other_ne_wait (notCreate : operation.kind ≠ .create)
    (ready : Crew.due phase ≤ context.now ∨ context.cancelled = true)
    (suits : phase.Suits plan context.now operation) :
    plan.other context operation notCreate world phase ≠ .wait := by
  have acts : Plan.other.act context operation notCreate world ≠ .wait := by
    unfold Plan.other.act
    split <;> (intro waits; cases waits)
  cases phase with
  | entering =>
    simp only [Plan.other]
    split
    · intro waits
      cases waits
    · exact acts
  | delayed due =>
    simp only [Plan.other]
    split
    · intro waits
      cases waits
    · rename_i uncancelled
      have reached : due ≤ context.now := ready.resolve_right uncancelled
      rw [if_pos reached]
      exact acts
  | refused => exact absurd suits notCreate
  | announcing | announced | registering =>
    obtain ⟨args, rfl, -⟩ := suits
    exact absurd rfl notCreate
  | resting =>
    obtain ⟨⟨args, rfl, -⟩, -⟩ := suits
    exact absurd rfl notCreate

theorem step_ne_wait (ready : Crew.due phase ≤ context.now ∨ context.cancelled = true)
    (suits : phase.Suits plan context.now operation) :
    plan.step context operation world phase ≠ .wait := by
  cases operation with
  | create args =>
    apply Crew.create_ne_wait plan context args world ready
    rintro due rfl
    exact suits.1 rfl
  | start | stop | quit | delete | status | listInstances => exact other_ne_wait _ ready suits

theorem atOnce_wait (suits : phase.Suits plan context.now operation)
    (waits : plan.step context operation world phase = .wait) :
    context.cancelled = false ∧ Pauses plan context.now phase := by
  have uncancelled : context.cancelled = false := by
    rw [← Bool.not_eq_true]
    exact fun cancelled => step_ne_wait (.inr cancelled) suits waits
  have early : context.now < Crew.due phase := by
    apply Nat.lt_of_not_le
    exact fun reached => step_ne_wait (.inl reached) suits waits
  refine ⟨uncancelled, Crew.due phase, early, ?_⟩
  cases phase with
  | delayed => exact .inl ⟨rfl, suits.2⟩
  | resting name steps => exact .inr ⟨name, steps, rfl, suits.2⟩
  | entering | announcing | announced | refused | registering =>
    exact absurd early (Nat.not_lt_zero _)

/-- Each step of the service is a step of the machine or one that it does not see. -/
theorem atOnce_step (ascending : Catalogue.Ascending world.entries)
    (suits : phase.Suits plan context.now operation)
    (interrupts : context.cancelled = true ∨ phase = .refused → cut) :
    AtOnce plan cut context world operation phase (plan.step context operation world phase) := by
  have waits : plan.step context operation world phase = .wait → _ := atOnce_wait suits
  have works : plan.Works context world operation phase _ := plan.works_step operation phase
  generalize plan.step context operation world phase = demand at works waits
  cases works with
  | waited => exact waits rfl
  | entered =>
    exact ⟨(world.choose_frame _).1, nofun, _, rfl, names_choose world _⟩
  | clashed taken =>
    obtain ⟨entries, -⟩ := world.choose_frame _
    refine ⟨entries.symm ▸ ascending, fun _ _ => entries, ?_⟩
    rw [Catalogue.find?_congr entries]
    exact .alreadyExists (names_choose world _) (Catalogue.find?_of_taken taken)
  | announced => exact ⟨nofun, suits⟩
  | rested => exact ⟨rfl, nofun, suits, Nat.le_refl _⟩
  | resumed paused =>
    rcases paused with rfl | ⟨due, rfl⟩
    · exact ⟨rfl, nofun, suits⟩
    · exact ⟨rfl, nofun, suits.1⟩
  | ported => exact ⟨rfl, nofun, suits⟩
  | starved none => exact ⟨ascending, fun _ _ => rfl, .noPorts none⟩
  | @outrun args name port taken =>
    obtain ⟨_, isCreate, named⟩ := suits
    cases isCreate
    exact ⟨ascending, fun _ _ => rfl, .alreadyExists named (Catalogue.find?_of_taken taken)⟩
  | @registered args name port free =>
    obtain ⟨_, isCreate, named⟩ := suits
    cases isCreate
    refine ⟨ascending.put _ _, nofun, ?_⟩
    rw [Catalogue.find?_put_eq]
    exact .created named (Catalogue.find?_of_free free)
  | interrupted cause => exact ⟨ascending, fun _ _ => rfl, .cancelled (interrupts cause)⟩
  | delayed notCreate => exact ⟨rfl, nofun, notCreate, Nat.le_refl _⟩
  | carriedOut notCreate =>
    obtain ⟨kept, unchanged⟩ := carryOut_kept ascending notCreate
    exact ⟨kept, unchanged, reference_carryOut ascending notCreate⟩

end InstanceBroker.Simulated
