import InstanceBroker.Proofs.Catalogue
import InstanceBroker.Service.Simulated

namespace InstanceBroker

/-- The name that a creation goes by, which is made up unless it was given. -/
def Catalogue.choose (catalogue : Catalogue) (args : CreateArgs) : String × Catalogue :=
  match args.name with
  | some name => (name, catalogue)
  | none => catalogue.generateName

theorem Catalogue.choose_frame (catalogue : Catalogue) (args : CreateArgs) :
    (catalogue.choose args).2.entries = catalogue.entries ∧
      (catalogue.choose args).2.nextPort = catalogue.nextPort := by
  unfold choose
  split <;> exact ⟨rfl, rfl⟩

namespace Simulated

def Phase.name? : Phase → Option String
  | .announcing name _ | .announced name _ | .resting name _ _ | .registering name _ => some name
  | .entering | .refused | .delayed _ => none

/-- The port that was handed out to a creation and is in no entry yet. -/
def Phase.port? : Phase → Option UInt16
  | .registering _ port => some port
  | _ => none

def keyFile (name : String) : String := s!"/var/lib/vm-broker/instances/{name}/id_rsa"

/-- The entry that a creation puts into the catalogue. -/
def fitted (args : CreateArgs) (name : String) (port : UInt16) : Catalogue.Entry where
  details :=
    { name
      workload := if args.workload.isEmpty then "ubuntu" else args.workload
      spec := args.customSpec.getD
        { memMib := 2048, cpus := 2, diskGib := 60, portMappings := [], mounts := [] }
      ssh := { keyPath := keyFile name, port } }
  running := true

/-- The entry that seeding puts into the catalogue. -/
def vacant (name : String) (spec : MachineSpec) (port : UInt16) : Catalogue.Entry where
  details := { name, workload := "ubuntu", spec, ssh := { keyPath := keyFile name, port } }
  running := false

/-- A step of a call, by the phase that it is taken in and what is demanded. -/
inductive Plan.Works (plan : Plan) (context : Context) (world : Catalogue) :
    (operation : Operation) → Phase → Answered operation.kind → Prop
  | waited {operation : Operation} {phase : Phase} : Works plan context world operation phase .wait
  | entered {args : CreateArgs} (free : world.contains (world.choose args).1 = false) :
      Works plan context world (.create args) .entering
        (.proceed (world.choose args).2 (.announcing (world.choose args).1 plan.creationSteps))
  | clashed {args : CreateArgs} (taken : world.contains (world.choose args).1 = true) :
      Works plan context world (.create args) .entering
        (.finish (world.choose args).2 (.error (.alreadyExists (world.choose args).1)))
  | announced {args : CreateArgs} {name step : String} {steps : List String} :
      Works plan context world (.create args) (.announcing name (step :: steps))
        (.report (.progress step) (.announced name steps) rfl)
  | rested {args : CreateArgs} {name : String} {steps : List String} :
      Works plan context world (.create args) (.announced name steps)
        (.proceed world (.resting name steps (context.now + plan.stepDelay.nanos)))
  | resumed {args : CreateArgs} {name : String} {steps : List String} {phase : Phase}
      (paused : phase = .announced name steps ∨ ∃ due, phase = .resting name steps due) :
      Works plan context world (.create args) phase (.proceed world (.announcing name steps))
  | ported {args : CreateArgs} {name : String} (left : world.nextPort < Catalogue.portLimit) :
      Works plan context world (.create args) (.announcing name [])
        (.proceed world.withPortTaken (.registering name (.ofNat world.nextPort)))
  | starved {args : CreateArgs} {name : String} (none : Catalogue.portLimit ≤ world.nextPort) :
      Works plan context world (.create args) (.announcing name [])
        (.finish world (.error (.backend "No SSH ports left to forward")))
  | outrun {args : CreateArgs} {name : String} {port : UInt16}
      (taken : world.contains name = true) :
      Works plan context world (.create args) (.registering name port)
        (.finish world (.error (.alreadyExists name)))
  | registered {args : CreateArgs} {name : String} {port : UInt16}
      (free : world.contains name = false) :
      Works plan context world (.create args) (.registering name port)
        (.finish (world.put name (fitted args name port)) (.ok (.complete name)))
  | interrupted {operation : Operation} {phase : Phase}
      (cancelled : context.cancelled = true ∨ phase = .refused) :
      Works plan context world operation phase (.finish world (.error .cancelled))
  | delayed {operation : Operation} (notCreate : operation.kind ≠ .create) :
      Works plan context world operation .entering
        (.proceed world (.delayed (context.now + plan.operationDelay.nanos)))
  | carriedOut {operation : Operation} {phase : Phase} (notCreate : operation.kind ≠ .create) :
      Works plan context world operation phase
        (.finish (carryOut world operation notCreate).1 (carryOut world operation notCreate).2)

namespace Plan

variable {plan : Plan} {context : Context} {world : Catalogue}

theorem works_create (args : CreateArgs) (phase : Phase) :
    plan.Works context world (.create args) phase (plan.create context args world phase) := by
  cases phase with
  | entering =>
    have same : plan.create context args world .entering =
        if (world.choose args).2.contains (world.choose args).1 then
          .finish (world.choose args).2 (.error (.alreadyExists (world.choose args).1))
        else
          .proceed (world.choose args).2
            (.announcing (world.choose args).1 plan.creationSteps) := rfl
    have entries : (world.choose args).2.contains (world.choose args).1 =
        world.contains (world.choose args).1 := by
      rw [Catalogue.contains, Catalogue.find?, (world.choose_frame args).1]
      rfl
    rw [same, entries]
    split
    · rename_i taken
      exact .clashed taken
    · rename_i free
      exact .entered (by simpa using free)
  | announcing name steps =>
    cases steps with
    | nil =>
      simp only [create]
      obtain ⟨left, taken⟩ | ⟨none, failed⟩ := world.takePort_cases
      · rw [taken]
        exact .ported left
      · rw [failed]
        exact .starved none
    | cons step steps => exact .announced
  | announced name steps =>
    simp only [create]
    split
    · exact .rested
    · split
      · rename_i cancelled
        exact .interrupted (.inl cancelled)
      · exact .resumed (.inl rfl)
  | refused => exact .interrupted (.inr rfl)
  | resting name steps due =>
    simp only [create]
    split
    · rename_i cancelled
      exact .interrupted (.inl cancelled)
    · split
      · exact .resumed (.inr ⟨due, rfl⟩)
      · exact .waited
  | registering name port =>
    simp only [create, Catalogue.register]
    by_cases taken : world.contains name = true
    · simp only [Catalogue.describe, taken, if_true]
      exact .outrun taken
    · have free : world.contains name = false := by simpa using taken
      simp only [Catalogue.describe, free, Bool.false_eq_true, if_false]
      exact .registered free
  | delayed => exact .waited

theorem works_act (operation : Operation) (notCreate : operation.kind ≠ .create) (phase : Phase) :
    plan.Works context world operation phase (other.act context operation notCreate world) := by
  unfold other.act
  split
  · rename_i cancelled
    exact .interrupted (.inl cancelled)
  · exact .carriedOut notCreate

theorem works_other (operation : Operation) (notCreate : operation.kind ≠ .create)
    (phase : Phase) :
    plan.Works context world operation phase
      (plan.other context operation notCreate world phase) := by
  cases phase with
  | entering =>
    simp only [other]
    split
    · exact .delayed notCreate
    · exact works_act ..
  | delayed due =>
    simp only [other]
    split
    · rename_i cancelled
      exact .interrupted (.inl cancelled)
    · split
      · exact works_act ..
      · exact .waited
  | announcing | announced | refused | resting | registering => exact .waited

theorem works_step (operation : Operation) (phase : Phase) :
    plan.Works context world operation phase (plan.step context operation world phase) := by
  cases operation with
  | create args => exact works_create ..
  | start | stop | quit | delete | status | listInstances => exact works_other ..

end Plan

inductive Carries (world : Catalogue) : (operation : Operation) →
    Catalogue × Except OperationError operation.kind.Returned → Prop
  | failed {operation : Operation} {error : OperationError} :
      Carries world operation (world, .error error)
  | amended {operation : Operation} {name : String} {entry next : Catalogue.Entry}
      {value : operation.kind.Returned} (apart : ∀ name, operation ≠ .delete name)
      (found : world.find? name = some entry)
      (identity : next.details.name = entry.details.name ∧ next.details.ssh = entry.details.ssh) :
      Carries world operation (world.put name next, .ok value)
  | deleted {name : String} (present : world.contains name = true) :
      Carries world (.delete name) (world.erase name, .ok ())
  | read {operation : Operation} {value : operation.kind.Returned}
      (apart : ∀ name, operation ≠ .delete name) : Carries world operation (world, .ok value)

theorem carries_of_carryOut (world : Catalogue) (operation : Operation)
    (notCreate : operation.kind ≠ .create) :
    Carries world operation (carryOut world operation notCreate) := by
  cases operation with
  | create => exact absurd rfl notCreate
  | start args =>
    simp only [carryOut, Catalogue.start, bind, Except.bind]
    cases there : world.existing args.name with
    | error => exact .failed
    | ok entry =>
      have found := Catalogue.existing_eq_ok_iff.mp there
      cases running : entry.running with
      | true => simp only [running, if_true]; exact .failed
      | false =>
        simp only [running]
        exact .amended nofun found ⟨rfl, rfl⟩
  | stop name =>
    simp only [carryOut, Catalogue.stop, bind, Except.bind]
    cases there : world.existing name with
    | error => exact .failed
    | ok entry =>
      have found := Catalogue.existing_eq_ok_iff.mp there
      cases running : entry.running with
      | true =>
        simp only [running]
        exact .amended nofun found ⟨rfl, rfl⟩
      | false => simp only [running, Bool.not_false, if_true]; exact .failed
  | quit name =>
    simp only [carryOut, Catalogue.quit, bind, Except.bind]
    cases there : world.existing name with
    | error => exact .failed
    | ok entry =>
      exact .amended nofun (Catalogue.existing_eq_ok_iff.mp there) ⟨rfl, rfl⟩
  | delete name =>
    simp only [carryOut, Catalogue.delete, bind, Except.bind]
    cases there : world.existing name with
    | error => exact .failed
    | ok entry =>
      exact .deleted (Catalogue.contains_of_find? (Catalogue.existing_eq_ok_iff.mp there))
  | status name =>
    simp only [carryOut, Catalogue.status, bind, Except.bind]
    cases world.existing name with
    | error => exact .failed
    | ok entry => exact .read nofun
  | listInstances => exact .read nofun

inductive Job.Stage
  | working (phase : Phase)
  | reporting (phase : Phase)
  | ended (value : ResultValue)

structure Job where
  operation : Operation
  name : Option String := none
  stage : Job.Stage

namespace Job

def phase? (job : Job) : Option Phase :=
  match job.stage with
  | .working phase | .reporting phase => some phase
  | .ended _ => none

def port? (job : Job) : Option UInt16 := job.phase?.bind (·.port?)

def nameAfter (catalogue : Catalogue) (job : Job) : Phase → Option String
  | .entering => match job.operation with
    | .create args => some (catalogue.choose args).1
    | _ => job.name
  | _ => job.name

def created (name : String) (job : Job) : Bool :=
  match job.operation, job.stage with
  | .create _, .ended (.final (.created result)) => result.name == name
  | _, _ => false

def deleted (name : String) (job : Job) : Bool :=
  match job.operation, job.stage with
  | .delete other, .ended (.final .done) => other == name
  | _, _ => false

def Uncounted (job : Job) : Prop :=
  ∀ name, job.created name = false ∧ job.deleted name = false

theorem phase?_of_working {job : Job} {phase : Phase} (working : job.stage = .working phase) :
    job.phase? = some phase := by rw [phase?, working]

theorem uncounted_of_phase {job : Job} {phase : Phase} (underWay : job.phase? = some phase) :
    job.Uncounted := by
  obtain ⟨operation, name, stage⟩ := job
  cases stage with
  | ended => cases underWay
  | working | reporting => cases operation <;> exact fun _ => ⟨rfl, rfl⟩

theorem uncounted_of_failed (operation : Operation) (name : Option String)
    (error : OperationError) : (Job.mk operation name (.ended (.failed error))).Uncounted := by
  cases operation <;> exact fun _ => ⟨rfl, rfl⟩

theorem uncounted_of_apart {operation : Operation} (notCreate : operation.kind ≠ .create)
    (apart : ∀ name, operation ≠ .delete name) (name : Option String) (value : ResultValue) :
    (Job.mk operation name (.ended value)).Uncounted := by
  cases operation with
  | create => exact absurd rfl notCreate
  | delete victim => exact absurd rfl (apart victim)
  | start | stop | quit | status | listInstances => exact fun _ => ⟨rfl, rfl⟩

structure Consistent (job : Job) : Prop where
  outcome : ∀ value, job.stage = .ended value →
    ∃ outcome, value = .ofOutcome job.operation.kind outcome
  named : ∀ args, job.operation = .create args → job.stage = .working .entering ∨
    ∃ name, job.name = some name ∧ (∀ asked, args.name = some asked → asked = name) ∧
      ∀ phase, job.phase? = some phase → phase.name? = some name ∨ phase = .refused

theorem outcome_create {kind : Operation.Kind} (isCreate : kind = .create)
    (outcome : Except OperationError kind.Returned) :
    (∃ error, ResultValue.ofOutcome kind outcome = .failed error) ∨
      ∃ result, ResultValue.ofOutcome kind outcome = .final (.created result) := by
  subst isCreate
  cases outcome with
  | error error => exact .inl ⟨error, rfl⟩
  | ok result => exact .inr ⟨_, rfl⟩

theorem Consistent.creation_outcome {job : Job} {args : CreateArgs} {value : ResultValue}
    (consistent : job.Consistent) (isCreate : job.operation = .create args)
    (ended : job.stage = .ended value) :
    (∃ error, value = .failed error) ∨ ∃ result, value = .final (.created result) := by
  obtain ⟨outcome, rfl⟩ := consistent.outcome value ended
  exact outcome_create (congrArg Operation.kind isCreate) outcome

end Job

inductive Act
  | seed (name : String) (spec : MachineSpec)
  | call (operation : Operation)
  | step (job now : Nat) (cancelled : Bool)
  | answer (job : Nat) (accepted : Bool)

def Act.isSeed : Act → Bool
  | .seed .. => true
  | _ => false

def Act.concerns (job : Nat) : Act → Bool
  | .step other .. | .answer other _ => other == job
  | .seed .. | .call _ => false

def Act.unhindered (job : Nat) : Act → Bool
  | .step other _ cancelled => other == job && !cancelled
  | .answer other accepted => other == job && accepted
  | .seed .. | .call _ => false

theorem Act.concerns_of_unhindered {n : Nat} {act : Act} (unhindered : act.unhindered n = true) :
    act.concerns n = true := by
  cases act with
  | seed | call => cases unhindered
  | step | answer => exact (Bool.and_eq_true_iff.mp unhindered).1

/-- A service with all the calls that were ever made on it. -/
structure Crew where
  catalogue : Catalogue := {}
  jobs : List Job := []
  handed : List UInt16 := []

namespace Crew

def follow (crew : Crew) (n : Nat) (job : Job) (name : Option String) :
    Answered job.operation.kind → Crew
  | .wait => crew
  | .proceed catalogue phase =>
    { catalogue
      jobs := crew.jobs.set n { job with name, stage := .working phase }
      handed := crew.handed ++ phase.port?.toList }
  | .report _ phase _ =>
    { crew with jobs := crew.jobs.set n { job with name, stage := .reporting phase } }
  | .finish catalogue outcome =>
    let value := .ofOutcome job.operation.kind outcome
    { crew with catalogue, jobs := crew.jobs.set n { job with name, stage := .ended value } }

def perform (plan : Plan) (crew : Crew) : Act → Crew
  | .seed name spec =>
    { crew with
      catalogue := crew.catalogue.seed name spec
      handed := crew.handed ++ (crew.catalogue.takePort.toOption.map (·.1)).toList }
  | .call operation =>
    let phase := plan.service.enter (crew.jobs.length + 1) operation
    { crew with jobs := crew.jobs ++ [{ operation, stage := .working phase }] }
  | .step n now cancelled => match crew.jobs[n]? with
    | some job => match job.stage with
      | .working phase =>
        crew.follow n job (job.nameAfter crew.catalogue phase)
          (plan.step ⟨n + 1, now, cancelled⟩ job.operation crew.catalogue phase)
      | _ => crew
    | none => crew
  | .answer n accepted => match crew.jobs[n]? with
    | some job => match job.stage with
      | .reporting phase =>
        let phase := plan.service.resume accepted phase
        { crew with jobs := crew.jobs.set n { job with stage := .working phase } }
      | _ => crew
    | none => crew

def run (plan : Plan) (crew : Crew) (acts : List Act) : Crew := acts.foldl (perform plan) crew

@[simp] theorem run_append (plan : Plan) (crew : Crew) (first later : List Act) :
    crew.run plan (first ++ later) = (crew.run plan first).run plan later :=
  List.foldl_append ..

theorem run_invariant {plan : Plan} {P : Crew → Prop} {crew : Crew}
    (kept : ∀ crew act, P crew → P (crew.perform plan act)) (acts : List Act) (start : P crew) :
    P (crew.run plan acts) := by
  induction acts generalizing crew with
  | nil => exact start
  | cons act acts ih => exact ih (kept crew act start)

inductive Happens (plan : Plan) (crew : Crew) : Act → Crew → Prop
  | idle {act : Act} (unseeded : ∀ name spec, act = .seed name spec →
      Catalogue.portLimit ≤ crew.catalogue.nextPort) : Happens plan crew act crew
  | seeded {name : String} {spec : MachineSpec}
      (left : crew.catalogue.nextPort < Catalogue.portLimit) :
      Happens plan crew (.seed name spec)
        { crew with
          catalogue := crew.catalogue.withPortTaken.put name
            (vacant name spec (.ofNat crew.catalogue.nextPort))
          handed := crew.handed ++ [.ofNat crew.catalogue.nextPort] }
  | called {operation : Operation} :
      Happens plan crew (.call operation)
        { crew with jobs := crew.jobs ++ [{ operation, stage := .working .entering }] }
  | answered {n : Nat} {accepted : Bool} {job : Job} {phase : Phase}
      (found : crew.jobs[n]? = some job) (reporting : job.stage = .reporting phase) :
      Happens plan crew (.answer n accepted)
        { crew with
          jobs := crew.jobs.set n
            { job with stage := .working (if accepted then phase else .refused) } }
  | stepped {n now : Nat} {cancelled : Bool} {job : Job} {phase : Phase}
      {demand : Answered job.operation.kind} (found : crew.jobs[n]? = some job)
      (working : job.stage = .working phase)
      (works : plan.Works ⟨n + 1, now, cancelled⟩ crew.catalogue job.operation phase demand) :
      Happens plan crew (.step n now cancelled)
        (crew.follow n job (job.nameAfter crew.catalogue phase) demand)

theorem happens_perform (plan : Plan) (crew : Crew) (act : Act) :
    Happens plan crew act (crew.perform plan act) := by
  cases act with
  | seed name spec =>
    obtain ⟨left, taken⟩ | ⟨none, failed⟩ := crew.catalogue.takePort_cases
    · simp only [perform, Catalogue.seed, taken]
      exact .seeded left
    · simp only [perform, Catalogue.seed, failed, Except.toOption, Option.map_none,
        Option.toList_none, List.append_nil]
      exact .idle fun _ _ _ => none
  | call operation => exact .called
  | step n now cancelled =>
    simp only [perform]
    split
    · rename_i job found
      split
      · rename_i phase working
        exact .stepped found working (Plan.works_step ..)
      · exact .idle nofun
    · exact .idle nofun
  | answer n accepted =>
    simp only [perform]
    split
    · rename_i job found
      split
      · rename_i phase reporting
        cases accepted <;> exact .answered found reporting
      · exact .idle nofun
    · exact .idle nofun

theorem found_set {jobs : List Job} {m n : Nat} {old next job : Job} (there : jobs[m]? = some old)
    (found : (jobs.set m next)[n]? = some job) :
    (m = n ∧ job = next) ∨ (m ≠ n ∧ jobs[n]? = some job) := by
  by_cases same : m = n
  · subst same
    rw [List.getElem?_set_self (List.getElem?_eq_some_iff.mp there).1] at found
    exact .inl ⟨rfl, (Option.some.inj found).symm⟩
  · rw [List.getElem?_set_ne same] at found
    exact .inr ⟨same, found⟩

def landing (world : Catalogue) (phase : Phase) {kind : Operation.Kind} :
    Answered kind → Catalogue × Job.Stage
  | .wait => (world, .working phase)
  | .proceed world next => (world, .working next)
  | .report _ next _ => (world, .reporting next)
  | .finish world outcome => (world, .ended (.ofOutcome kind outcome))

theorem follow_landing {crew : Crew} {n : Nat} {job : Job} {phase : Phase}
    (found : crew.jobs[n]? = some job) (working : job.stage = .working phase)
    (settled : Option String) (demand : Answered job.operation.kind) :
    (crew.follow n job settled demand).catalogue = (landing crew.catalogue phase demand).1 ∧
      ∃ next, (crew.follow n job settled demand).jobs[n]? = some next ∧
        next.operation = job.operation ∧
          next.stage = (landing crew.catalogue phase demand).2 := by
  have within := (List.getElem?_eq_some_iff.mp found).1
  cases demand with
  | wait => exact ⟨rfl, job, found, rfl, working⟩
  | proceed | report | finish => exact ⟨rfl, _, List.getElem?_set_self within, rfl, rfl⟩

theorem job_of_concerns {crew : Crew} {m n now : Nat} {cancelled : Bool} {old job : Job}
    (concerned : (Act.step m now cancelled).concerns n = true) (there : crew.jobs[m]? = some old)
    (found : crew.jobs[n]? = some job) : old = job := by
  cases beq_iff_eq.mp concerned
  exact Option.some.inj (there.symm.trans found)

/-- What an act makes of the catalogue and of the call that it concerns. -/
inductive Effects (crew : Crew) : Act → Crew → Prop
  | idle {act : Act} (unseeded : ∀ name spec, act = .seed name spec →
      Catalogue.portLimit ≤ crew.catalogue.nextPort) : Effects crew act crew
  | seeded {name : String} {spec : MachineSpec}
      (left : crew.catalogue.nextPort < Catalogue.portLimit) :
      Effects crew (.seed name spec)
        { crew with
          catalogue := crew.catalogue.withPortTaken.put name
            (vacant name spec (.ofNat crew.catalogue.nextPort))
          handed := crew.handed ++ [.ofNat crew.catalogue.nextPort] }
  | called {operation : Operation} :
      Effects crew (.call operation)
        { crew with jobs := crew.jobs ++ [{ operation, stage := .working .entering }] }
  | moved {act : Act} {n : Nat} {job next : Job} {phase : Phase} {catalogue : Catalogue}
      (concerned : act.concerns n = true) (found : crew.jobs[n]? = some job)
      (underWay : job.phase? = some phase) (operation : next.operation = job.operation)
      (port : next.port? = none ∨ next.port? = job.port?) (uncounted : next.Uncounted)
      (entries : catalogue.entries = crew.catalogue.entries)
      (nextPort : catalogue.nextPort = crew.catalogue.nextPort) :
      Effects crew act { crew with catalogue, jobs := crew.jobs.set n next }
  | ported {n now : Nat} {cancelled : Bool} {args : CreateArgs} {job : Job} {name : String}
      (found : crew.jobs[n]? = some job) (isCreate : job.operation = .create args)
      (working : job.stage = .working (.announcing name []))
      (left : crew.catalogue.nextPort < Catalogue.portLimit) :
      Effects crew (.step n now cancelled)
        { catalogue := crew.catalogue.withPortTaken
          jobs := crew.jobs.set n
            { job with stage := .working (.registering name (.ofNat crew.catalogue.nextPort)) }
          handed := crew.handed ++ [.ofNat crew.catalogue.nextPort] }
  | registered {n now : Nat} {cancelled : Bool} {args : CreateArgs} {job : Job}
      {name : String} {port : UInt16}
      (found : crew.jobs[n]? = some job) (isCreate : job.operation = .create args)
      (working : job.stage = .working (.registering name port))
      (free : crew.catalogue.contains name = false) :
      Effects crew (.step n now cancelled)
        { crew with
          catalogue := crew.catalogue.put name (fitted args name port)
          jobs := crew.jobs.set n
            { job with stage := .ended (.final (.created (.complete name))) } }
  | deleted {n now : Nat} {cancelled : Bool} {job : Job} {phase : Phase} {name : String}
      (found : crew.jobs[n]? = some job) (isDelete : job.operation = .delete name)
      (working : job.stage = .working phase) (present : crew.catalogue.contains name = true) :
      Effects crew (.step n now cancelled)
        { crew with
          catalogue := crew.catalogue.erase name
          jobs := crew.jobs.set n { job with stage := .ended (.final .done) } }
  | amended {n now : Nat} {cancelled : Bool} {job next : Job} {phase : Phase} {name : String}
      {entry there : Catalogue.Entry} (found : crew.jobs[n]? = some job)
      (notCreate : job.operation.kind ≠ .create) (working : job.stage = .working phase)
      (operation : next.operation = job.operation)
      (port : next.port? = none ∨ next.port? = job.port?)
      (uncounted : next.Uncounted) (present : crew.catalogue.find? name = some entry)
      (identity : there.details.name = entry.details.name ∧
        there.details.ssh = entry.details.ssh) :
      Effects crew (.step n now cancelled)
        { crew with
          catalogue := crew.catalogue.put name there
          jobs := crew.jobs.set n next }

theorem Effects.goesOn {crew : Crew} {n now : Nat} {cancelled : Bool} {operation : Operation}
    {name settled : Option String} {phase next : Phase} {catalogue : Catalogue}
    (found : crew.jobs[n]? = some ⟨operation, name, .working phase⟩)
    (portless : next.port? = none) (entries : catalogue.entries = crew.catalogue.entries)
    (nextPort : catalogue.nextPort = crew.catalogue.nextPort) :
    Effects crew (.step n now cancelled)
      (crew.follow n ⟨operation, name, .working phase⟩ settled (.proceed catalogue next)) := by
  have moved : Effects crew (.step n now cancelled)
      { crew with catalogue, jobs := crew.jobs.set n ⟨operation, settled, .working next⟩ } :=
    .moved (beq_self_eq_true n) found rfl rfl (.inl portless) (Job.uncounted_of_phase rfl) entries
      nextPort
  simpa only [follow, portless, Option.toList_none, List.append_nil] using moved

theorem Effects.fails {crew : Crew} {n now : Nat} {cancelled : Bool} {operation : Operation}
    {name settled : Option String} {phase : Phase} {catalogue : Catalogue} {error : OperationError}
    (found : crew.jobs[n]? = some ⟨operation, name, .working phase⟩)
    (entries : catalogue.entries = crew.catalogue.entries)
    (nextPort : catalogue.nextPort = crew.catalogue.nextPort) :
    Effects crew (.step n now cancelled)
      (crew.follow n ⟨operation, name, .working phase⟩ settled
        (.finish catalogue (.error error))) :=
  Effects.moved (beq_self_eq_true n) found rfl rfl (.inl rfl) (Job.uncounted_of_failed _ _ _)
    entries
    nextPort

theorem Happens.effects {plan : Plan} {crew after : Crew} {act : Act}
    (happens : Happens plan crew act after) : Effects crew act after := by
  cases happens with
  | idle unseeded => exact .idle unseeded
  | seeded left => exact .seeded left
  | called => exact .called
  | @answered n accepted job phase found reporting =>
    have underWay : job.phase? = some phase := by rw [Job.phase?, reporting]
    refine .moved (beq_self_eq_true n) found underWay rfl ?_ (Job.uncounted_of_phase rfl) rfl rfl
    cases accepted with
    | true => exact .inr (congrArg (·.bind (·.port?)) underWay.symm)
    | false => exact .inl rfl
  | @stepped n now cancelled job phase demand found working works =>
    obtain ⟨operation, name, stage⟩ := job
    cases working
    cases works with
    | waited => exact .idle nofun
    | entered =>
      obtain ⟨entries, nextPort⟩ := crew.catalogue.choose_frame _
      exact .goesOn found rfl entries nextPort
    | clashed =>
      obtain ⟨entries, nextPort⟩ := crew.catalogue.choose_frame _
      exact .fails found entries nextPort
    | announced =>
      exact .moved (beq_self_eq_true n) found rfl rfl (.inl rfl)
        (Job.uncounted_of_phase rfl) rfl rfl
    | rested | resumed | delayed => exact .goesOn found rfl rfl rfl
    | starved | outrun | interrupted => exact .fails found rfl rfl
    | ported left => exact .ported found rfl rfl left
    | registered free => exact .registered found rfl rfl free
    | carriedOut notCreate =>
      have carries := carries_of_carryOut crew.catalogue operation notCreate
      generalize carryOut crew.catalogue operation notCreate = done at carries
      cases carries with
      | failed => exact .fails found rfl rfl
      | amended apart present identity =>
        exact .amended found notCreate rfl rfl (.inl rfl)
          (Job.uncounted_of_apart notCreate apart _ _) present identity
      | @deleted victim present =>
        have same : (Job.mk (.delete victim) name (.working phase)).nameAfter crew.catalogue phase =
            name := by cases phase <;> rfl
        rw [same]
        exact .deleted found rfl rfl present
      | read apart =>
        exact .moved (beq_self_eq_true n) found rfl rfl (.inl rfl)
          (Job.uncounted_of_apart notCreate apart _ _) rfl rfl

theorem effects_perform (plan : Plan) (crew : Crew) (act : Act) :
    Effects crew act (crew.perform plan act) := (happens_perform plan crew act).effects

theorem consistent_answered {job : Job} {phase : Phase} (consistent : job.Consistent)
    (reporting : job.stage = .reporting phase) (accepted : Bool) :
    ({ job with stage := .working (if accepted then phase else .refused) } : Job).Consistent where
  outcome _ ended := by cases ended
  named args isCreate := by
    right
    rcases consistent.named args isCreate with entering | ⟨name, named, asked, phases⟩
    · rw [reporting] at entering
      cases entering
    · refine ⟨name, named, asked, fun later there => ?_⟩
      cases there
      cases accepted with
      | true => exact phases phase (by rw [Job.phase?, reporting])
      | false => exact .inr rfl

theorem choose_asked {catalogue : Catalogue} {args : CreateArgs} {asked : String}
    (given : args.name = some asked) : asked = (catalogue.choose args).1 := by
  rw [Catalogue.choose, given]

theorem nameAfter_cases {job : Job} {phase : Phase} {args : CreateArgs} (catalogue : Catalogue)
    (consistent : job.Consistent) (working : job.stage = .working phase)
    (isCreate : job.operation = .create args) :
    ∃ name, job.nameAfter catalogue phase = some name ∧
      (∀ asked, args.name = some asked → asked = name) ∧
      (phase = .entering ∧ name = (catalogue.choose args).1 ∨
        phase.name? = some name ∨ phase = .refused) := by
  by_cases entering : phase = .entering
  · subst entering
    refine ⟨(catalogue.choose args).1, ?_, fun _ => choose_asked, .inl ⟨rfl, rfl⟩⟩
    simp only [Job.nameAfter, isCreate]
  · have same : job.nameAfter catalogue phase = job.name := by
      cases phase <;> first | rfl | exact absurd rfl entering
    rcases consistent.named args isCreate with first | ⟨name, named, asked, phases⟩
    · cases working.symm.trans first
      exact absurd rfl entering
    · exact ⟨name, same.trans named, asked,
        .inr (phases phase (Job.phase?_of_working working))⟩

theorem consistent_ended {job : Job} {phase : Phase} (catalogue : Catalogue)
    (consistent : job.Consistent) (working : job.stage = .working phase)
    (outcome : Except OperationError job.operation.kind.Returned) :
    ({ job with
      name := job.nameAfter catalogue phase
      stage := .ended (.ofOutcome job.operation.kind outcome) } : Job).Consistent where
  outcome value ended := by
    cases ended
    exact ⟨outcome, rfl⟩
  named args isCreate := by
    obtain ⟨name, named, asked, _⟩ := nameAfter_cases catalogue consistent working isCreate
    exact .inr ⟨name, named, asked, nofun⟩

theorem consistent_onward {job : Job} {phase next : Phase} {stage : Job.Stage}
    (catalogue : Catalogue) (consistent : job.Consistent) (working : job.stage = .working phase)
    (onward : stage = .working next ∨ stage = .reporting next)
    (names : ∀ args, job.operation = .create args → ∃ name, next.name? = some name ∧
      (phase = .entering ∧ name = (catalogue.choose args).1 ∨ phase.name? = some name)) :
    ({ job with name := job.nameAfter catalogue phase, stage } : Job).Consistent where
  outcome value ended := by
    cases ended
    rcases onward with other | other <;> cases other
  named args isCreate := by
    right
    obtain ⟨name, named, asked, source⟩ := nameAfter_cases catalogue consistent working isCreate
    obtain ⟨goes, by_, source'⟩ := names args isCreate
    refine ⟨name, named, asked, fun later there => .inl ?_⟩
    have same : later = next := by
      rcases onward with rfl | rfl <;> (cases there; rfl)
    subst same
    rw [by_]
    rcases source' with ⟨rfl, rfl⟩ | carries
    · rcases source with ⟨_, rfl⟩ | other | other
      · rfl
      · cases other
      · cases other
    · rcases source with ⟨rfl, _⟩ | same | rfl
      · cases carries
      · exact carries.symm.trans same
      · cases carries

theorem consistent_followed {plan : Plan} {crew : Crew} {n : Nat} {context : Context} {job : Job}
    {phase : Phase} {demand : Answered job.operation.kind} (consistent : job.Consistent)
    (working : job.stage = .working phase)
    (works : plan.Works context crew.catalogue job.operation phase demand)
    (among : ∀ other ∈ crew.jobs, other.Consistent) :
    ∀ other ∈ (crew.follow n job (job.nameAfter crew.catalogue phase) demand).jobs,
      other.Consistent := by
  cases demand with
  | wait => exact among
  | finish catalogue outcome =>
    intro other listed
    rcases List.mem_or_eq_of_mem_set listed with old | rfl
    · exact among other old
    · exact consistent_ended crew.catalogue consistent working outcome
  | proceed catalogue next =>
    intro other listed
    rcases List.mem_or_eq_of_mem_set listed with old | rfl
    · exact among other old
    · refine consistent_onward crew.catalogue consistent working (.inl rfl) ?_
      obtain ⟨operation, name, stage⟩ := job
      dsimp only at works ⊢
      cases works with
      | entered =>
        rintro _ ⟨⟩
        exact ⟨_, rfl, .inl ⟨rfl, rfl⟩⟩
      | rested | ported =>
        rintro _ ⟨⟩
        exact ⟨_, rfl, .inr rfl⟩
      | resumed paused =>
        rintro _ ⟨⟩
        rcases paused with rfl | ⟨_, rfl⟩ <;> exact ⟨_, rfl, .inr rfl⟩
      | delayed notCreate =>
        rintro _ rfl
        exact absurd rfl notCreate
  | report progress next isCreate =>
    intro other listed
    rcases List.mem_or_eq_of_mem_set listed with old | rfl
    · exact among other old
    · refine consistent_onward crew.catalogue consistent working (.inr rfl) ?_
      obtain ⟨operation, name, stage⟩ := job
      dsimp only at works ⊢
      cases works
      rintro _ ⟨⟩
      exact ⟨_, rfl, .inr rfl⟩

theorem consistent_perform (plan : Plan) {crew : Crew} (act : Act)
    (among : ∀ job ∈ crew.jobs, job.Consistent) :
    ∀ job ∈ (crew.perform plan act).jobs, job.Consistent := by
  have happens := happens_perform plan crew act
  generalize crew.perform plan act = after at happens
  cases happens with
  | idle | seeded => exact among
  | called =>
    intro job listed
    rcases List.mem_append.mp listed with old | new
    · exact among job old
    · cases List.mem_singleton.mp new
      exact ⟨nofun, fun _ _ => .inl rfl⟩
  | answered found reporting =>
    intro job listed
    rcases List.mem_or_eq_of_mem_set listed with old | rfl
    · exact among job old
    · exact consistent_answered (among _ (List.mem_of_getElem? found)) reporting _
  | stepped found working works =>
    exact consistent_followed (among _ (List.mem_of_getElem? found)) working works among

theorem consistent_run (plan : Plan) (acts : List Act) :
    ∀ job ∈ (run plan {} acts).jobs, job.Consistent :=
  run_invariant (P := fun crew => ∀ job ∈ crew.jobs, job.Consistent)
    (fun _ act among => consistent_perform plan act among) acts fun _ listed => by cases listed

end Crew

end Simulated

end InstanceBroker
