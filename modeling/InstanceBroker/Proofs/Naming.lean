import InstanceBroker.Proofs.Inventory

namespace InstanceBroker

def madeUp (number : Nat) : String := s!"vm{number}"

theorem madeUp_injective : Function.Injective madeUp := by
  intro first second same
  have letters : ("vm" ++ toString first).toList = ("vm" ++ toString second).toList :=
    congrArg String.toList same
  have digits : Nat.toDigits 10 first = Nat.toDigits 10 second := by
    simpa [String.toList_append, Nat.toString_eq_repr, Nat.toList_repr] using letters
  calc
    first = Nat.ofDigitChars 10 (Nat.toDigits 10 first) 0 := Nat.ofDigitChars_ten_toDigits.symm
    _ = Nat.ofDigitChars 10 (Nat.toDigits 10 second) 0 := by rw [digits]
    _ = second := Nat.ofDigitChars_ten_toDigits

def Catalogue.withNameMadeUp (catalogue : Catalogue) : Catalogue :=
  { catalogue with nextName := catalogue.nextName + 1 }

theorem Catalogue.choose_cases (catalogue : Catalogue) (args : CreateArgs) :
    (∃ name, args.name = some name ∧ catalogue.choose args = (name, catalogue)) ∨
      args.name = none ∧
        catalogue.choose args = (madeUp catalogue.nextName, catalogue.withNameMadeUp) := by
  unfold choose
  cases args.name with
  | some name => exact .inl ⟨name, rfl, rfl⟩
  | none => exact .inr ⟨rfl, rfl⟩

namespace Simulated

def Act.asks? : Act → Option String
  | .seed name _ => some name
  | .call (.create args) => args.name
  | _ => none

namespace Crew

variable {plan : Plan} {crew after : Crew} {act : Act} {asked : String → Prop}

/-- The name was asked for, or it was made up before. -/
def Known (asked : String → Prop) (crew : Crew) (name : String) : Prop :=
  asked name ∨ ∃ number < crew.catalogue.nextName, name = madeUp number

/-- Instances, and the creations on their way there, only have names that are known. -/
structure Sourced (asked : String → Prop) (crew : Crew) : Prop where
  entries : ∀ name, crew.catalogue.contains name = true → crew.Known asked name
  requests : ∀ job ∈ crew.jobs, ∀ args name, job.operation = .create args →
    args.name = some name → asked name
  underWay : ∀ job ∈ crew.jobs, ∀ phase name, job.phase? = some phase →
    phase.name? = some name → crew.Known asked name

theorem Known.later {name : String} (known : crew.Known asked name)
    (grows : crew.catalogue.nextName ≤ after.catalogue.nextName) : after.Known asked name := by
  rcases known with asks | ⟨number, less, rfl⟩
  · exact .inl asks
  · exact .inr ⟨number, by omega, rfl⟩

theorem Sourced.later (sourced : crew.Sourced asked)
    (grows : crew.catalogue.nextName ≤ after.catalogue.nextName)
    (entries : ∀ name, after.catalogue.contains name = true →
      crew.catalogue.contains name = true ∨ after.Known asked name)
    (jobs : ∀ job ∈ after.jobs, job ∈ crew.jobs ∨
      (∀ args name, job.operation = .create args → args.name = some name → asked name) ∧
        ∀ phase name, job.phase? = some phase → phase.name? = some name →
          after.Known asked name) : after.Sourced asked where
  entries name there := by
    rcases entries name there with before | known
    · exact (sourced.entries name before).later grows
    · exact known
  requests job listed := by
    rcases jobs job listed with before | ⟨requests, -⟩
    · exact sourced.requests job before
    · exact requests
  underWay job listed phase name at_ named := by
    rcases jobs job listed with before | ⟨-, underWay⟩
    · exact (sourced.underWay job before phase name at_ named).later grows
    · exact underWay phase name at_ named

theorem Sourced.followed (sourced : crew.Sourced asked) {n : Nat} {job next : Job}
    {catalogue : Catalogue} {handed : List UInt16} (found : crew.jobs[n]? = some job)
    (operation : next.operation = job.operation)
    (grows : crew.catalogue.nextName ≤ catalogue.nextName)
    (entries : ∀ name, catalogue.contains name = true → crew.catalogue.contains name = true ∨
      ∃ phase, job.phase? = some phase ∧ phase.name? = some name)
    (names : ∀ phase name, next.phase? = some phase → phase.name? = some name →
      (∃ before, job.phase? = some before ∧ before.name? = some name) ∨
        asked name ∨ name = madeUp crew.catalogue.nextName ∧
          crew.catalogue.nextName < catalogue.nextName) :
    Sourced asked { catalogue, jobs := crew.jobs.set n next, handed } := by
  have listed := List.mem_of_getElem? found
  apply sourced.later grows
  · intro name there
    rcases entries name there with before | ⟨phase, at_, named⟩
    · exact .inl before
    · exact .inr ((sourced.underWay job listed phase name at_ named).later grows)
  · intro other among
    rcases List.mem_or_eq_of_mem_set among with before | rfl
    · exact .inl before
    · refine .inr ⟨fun args name isCreate => ?_, fun phase name at_ named => ?_⟩
      · exact sourced.requests job listed args name (operation ▸ isCreate)
      · rcases names phase name at_ named with ⟨before, there, same⟩ | asks | ⟨rfl, less⟩
        · exact (sourced.underWay job listed before name there same).later grows
        · exact .inl asks
        · exact .inr ⟨_, less, rfl⟩

theorem Sourced.failed (sourced : crew.Sourced asked) {n : Nat} {job : Job}
    {settled : Option String} {catalogue : Catalogue} {value : ResultValue}
    (found : crew.jobs[n]? = some job) (entries : catalogue.entries = crew.catalogue.entries)
    (grows : crew.catalogue.nextName ≤ catalogue.nextName) :
    Sourced asked { crew with
      catalogue, jobs := crew.jobs.set n ⟨job.operation, settled, .ended value⟩ } := by
  refine sourced.followed found rfl grows ?_ ?_
  · intro name there
    left
    unfold Catalogue.contains Catalogue.find? at there ⊢
    rwa [entries] at there
  · intro phase name none
    cases none

theorem sourced_carried (sourced : crew.Sourced asked) {n : Nat} {job : Job}
    {settled : Option String} (found : crew.jobs[n]? = some job)
    (notCreate : job.operation.kind ≠ .create) :
    (crew.follow n job settled (.finish (carryOut crew.catalogue job.operation notCreate).1
      (carryOut crew.catalogue job.operation notCreate).2)).Sourced asked := by
  have carries := carries_of_carryOut crew.catalogue job.operation notCreate
  generalize carryOut crew.catalogue job.operation notCreate = done at carries
  obtain ⟨operation, _, _⟩ := job
  dsimp only at carries
  cases carries with
  | failed | read => exact sourced.failed found rfl (Nat.le_refl _)
  | amended _ present =>
    refine sourced.followed found rfl (Nat.le_refl _) ?_ ?_
    · intro name there
      left
      rw [Catalogue.contains_put, Bool.or_eq_true, beq_iff_eq] at there
      rcases there with rfl | before
      · exact Catalogue.contains_of_find? present
      · exact before
    · intro phase name none
      cases none
  | deleted =>
    refine sourced.followed found rfl (Nat.le_refl _) ?_ ?_
    · intro name there
      rw [Catalogue.contains_erase, Bool.and_eq_true] at there
      exact .inl there.2
    · intro phase name none
      cases none

theorem sourced_stepped (sourced : crew.Sourced asked) {n : Nat} {context : Context} {job : Job}
    {settled : Option String} {phase : Phase} {demand : Answered job.operation.kind}
    (found : crew.jobs[n]? = some job) (working : job.stage = .working phase)
    (works : plan.Works context crew.catalogue job.operation phase demand) :
    (crew.follow n job settled demand).Sourced asked := by
  have same (name : String) (there : crew.catalogue.contains name = true) :
      crew.catalogue.contains name = true ∨
        ∃ phase, job.phase? = some phase ∧ phase.name? = some name := .inl there
  have at_ := Job.phase?_of_working working
  have requests := sourced.requests job (List.mem_of_getElem? found)
  -- A call that goes on, and what it has for a name afterwards.
  have onward {next : Job} {handed : List UInt16} {later : Phase}
      (operation : next.operation = job.operation) (goes : next.phase? = some later)
      (named : ∀ name, later.name? = some name → phase.name? = some name) :
      Sourced asked { crew with jobs := crew.jobs.set n next, handed } := by
    apply sourced.followed found operation (Nat.le_refl _) same
    intro phase' name there name'
    cases goes.symm.trans there
    exact .inl ⟨phase, at_, named name name'⟩
  obtain ⟨operation, name, stage⟩ := job
  dsimp only at works
  cases works with
  | waited => exact sourced
  | @entered args =>
    obtain ⟨given, isGiven, chosen⟩ | ⟨-, chosen⟩ := crew.catalogue.choose_cases args
    all_goals
      rw [chosen]
      refine sourced.followed found rfl (by simp [Catalogue.withNameMadeUp]) same ?_
      rintro _ _ ⟨⟩ ⟨⟩
    · exact .inr (.inl (requests args given rfl isGiven))
    · exact .inr (.inr ⟨rfl, Nat.lt_succ_self _⟩)
  | @clashed args =>
    apply sourced.failed found (crew.catalogue.choose_frame args).1
    obtain ⟨given, -, chosen⟩ | ⟨-, chosen⟩ := crew.catalogue.choose_cases args
    · rw [chosen]
    · rw [chosen]
      exact Nat.le_succ _
  | announced | rested => exact onward rfl rfl fun _ named => named
  | resumed paused =>
    refine onward rfl rfl fun _ named => ?_
    rcases paused with rfl | ⟨due, rfl⟩ <;> exact named
  | ported =>
    refine sourced.followed found rfl (Nat.le_refl _) same ?_
    rintro _ _ ⟨⟩ ⟨⟩
    exact .inl ⟨_, at_, rfl⟩
  | starved | outrun | interrupted => exact sourced.failed found rfl (Nat.le_refl _)
  | registered =>
    refine sourced.followed found rfl (Nat.le_refl _) ?_ ?_
    · intro name there
      rw [Catalogue.contains_put, Bool.or_eq_true, beq_iff_eq] at there
      rcases there with rfl | before
      · exact .inr ⟨_, at_, rfl⟩
      · exact .inl before
    · intro phase name none
      cases none
  | delayed => exact onward rfl rfl nofun
  | carriedOut notCreate => exact sourced_carried sourced found notCreate

theorem sourced_perform (sourced : crew.Sourced asked)
    (asks : ∀ name, act.asks? = some name → asked name) :
    (crew.perform plan act).Sourced asked := by
  have happens := happens_perform plan crew act
  generalize crew.perform plan act = after at happens
  cases happens with
  | idle => exact sourced
  | seeded =>
    refine sourced.later (Nat.le_refl _) (fun name there => ?_) fun job listed => .inl listed
    rw [Catalogue.contains_put, Bool.or_eq_true, beq_iff_eq] at there
    rcases there with rfl | before
    · exact .inr (.inl (asks _ rfl))
    · exact .inl before
  | called =>
    refine sourced.later (Nat.le_refl _) (fun name there => .inl there) fun job listed => ?_
    rcases List.mem_append.mp listed with before | new
    · exact .inl before
    · cases List.mem_singleton.mp new
      right
      constructor
      · rintro args name rfl named
        exact asks name named
      · rintro _ _ ⟨⟩ none
        cases none
  | @answered _ accepted _ _ found reporting =>
    refine sourced.followed found rfl (Nat.le_refl _) (fun name there => .inl there) ?_
    rintro _ name ⟨⟩ named
    refine .inl ⟨_, by rw [Job.phase?, reporting], ?_⟩
    cases accepted with
    | true => exact named
    | false => cases named
  | stepped found working works => exact sourced_stepped sourced found working works

theorem sourced_run (plan : Plan) (acts : List Act) :
    (run plan {} acts).Sourced fun name => ∃ act ∈ acts, act.asks? = some name := by
  suffices onward : ∀ {asked : String → Prop} {crew : Crew}, crew.Sourced asked →
      (∀ act ∈ acts, ∀ name, act.asks? = some name → asked name) →
        (crew.run plan acts).Sourced asked by
    have start (asked : String → Prop) : Sourced asked {} := by
      constructor
      · intro name there
        cases there
      all_goals
        intro job listed
        cases listed
    exact onward (start _) fun act listed name asks => ⟨act, listed, asks⟩
  induction acts with
  | nil => exact fun sourced _ => sourced
  | cons act acts ih =>
    intro asked crew sourced asks
    obtain ⟨first, rest⟩ := List.forall_mem_cons.mp asks
    exact ih (sourced_perform sourced first) rest

theorem asked_of_taken (plan : Plan) (acts : List Act)
    (taken : (run plan {} acts).catalogue.contains
      (madeUp (run plan {} acts).catalogue.nextName) = true) :
    ∃ act ∈ acts, act.asks? = some (madeUp (run plan {} acts).catalogue.nextName) := by
  have sourced := sourced_run plan acts
  generalize run plan {} acts = crew at taken sourced ⊢
  obtain asked | ⟨number, less, same⟩ := sourced.entries _ taken
  · exact asked
  · have equal := madeUp_injective same
    omega

/-- How far a creation without a name has come by itself since it was made. -/
inductive Alone (before : Catalogue) (args : CreateArgs) : Catalogue → Job.Stage → Prop
  | entering : Alone before args before (.working .entering)
  | clashed (taken : before.contains (madeUp before.nextName) = true) :
      Alone before args before.withNameMadeUp
        (.ended (.failed (.alreadyExists (madeUp before.nextName))))
  | working {phase : Phase} (free : before.contains (madeUp before.nextName) = false)
      (named : phase.name? = some (madeUp before.nextName)) (portless : phase.port? = none) :
      Alone before args before.withNameMadeUp (.working phase)
  | reporting {phase : Phase} (free : before.contains (madeUp before.nextName) = false)
      (named : phase.name? = some (madeUp before.nextName)) (portless : phase.port? = none) :
      Alone before args before.withNameMadeUp (.reporting phase)
  | ported (free : before.contains (madeUp before.nextName) = false) :
      Alone before args before.withNameMadeUp.withPortTaken
        (.working (.registering (madeUp before.nextName) (.ofNat before.nextPort)))
  | registered (free : before.contains (madeUp before.nextName) = false) :
      Alone before args
        (before.withNameMadeUp.withPortTaken.put (madeUp before.nextName)
          (fitted args (madeUp before.nextName) (.ofNat before.nextPort)))
        (.ended (.final (.created (.complete (madeUp before.nextName)))))

theorem Alone.accepted {before world : Catalogue} {args : CreateArgs} {phase : Phase}
    (alone : Alone before args world (.reporting phase)) :
    Alone before args world (.working phase) := by
  cases alone with
  | reporting free named portless => exact .working free named portless

theorem Alone.works {before world : Catalogue} {context : Context} {args : CreateArgs}
    {phase : Phase} {demand : Answered .create} (alone : Alone before args world (.working phase))
    (unnamed : args.name = none) (left : before.nextPort < Catalogue.portLimit)
    (uncancelled : context.cancelled = false)
    (works : plan.Works context world (.create args) phase demand) :
    Alone before args (landing world phase demand).1 (landing world phase demand).2 := by
  have chosen (catalogue : Catalogue) :
      catalogue.choose args = (madeUp catalogue.nextName, catalogue.withNameMadeUp) := by
    obtain ⟨given, isGiven, -⟩ | ⟨-, chosen⟩ := catalogue.choose_cases args
    · cases unnamed.symm.trans isGiven
    · exact chosen
  cases alone with
  | entering =>
    cases works with
    | waited => exact .entering
    | entered free =>
      rw [chosen] at free ⊢
      exact .working free rfl rfl
    | clashed taken =>
      rw [chosen] at taken ⊢
      exact .clashed taken
    | resumed paused => rcases paused with paused | ⟨due, paused⟩ <;> cases paused
    | interrupted stopped =>
      rcases stopped with stopped | stopped
      · cases uncancelled.symm.trans stopped
      · cases stopped
    | delayed notCreate | carriedOut notCreate => exact absurd rfl notCreate
  | working free named portless =>
    cases works with
    | waited => exact .working free named portless
    | entered | clashed => cases named
    | announced => exact .reporting free named rfl
    | rested => exact .working free named rfl
    | resumed paused =>
      rcases paused with rfl | ⟨due, rfl⟩ <;> exact .working free named rfl
    | ported =>
      cases named
      exact .ported free
    | starved none => exact absurd left (Nat.not_lt_of_le none)
    | outrun | registered => cases portless
    | interrupted stopped =>
      rcases stopped with stopped | rfl
      · cases uncancelled.symm.trans stopped
      · cases named
    | delayed notCreate | carriedOut notCreate => exact absurd rfl notCreate
  | ported free =>
    cases works with
    | waited => exact .ported free
    | outrun taken => cases taken.symm.trans free
    | registered => exact .registered free
    | resumed paused => rcases paused with paused | ⟨due, paused⟩ <;> cases paused
    | interrupted stopped =>
      rcases stopped with stopped | stopped
      · cases uncancelled.symm.trans stopped
      · cases stopped
    | carriedOut notCreate => exact absurd rfl notCreate

def OnItsOwn (before : Catalogue) (args : CreateArgs) (n : Nat) (crew : Crew) : Prop :=
  ∃ job, crew.jobs[n]? = some job ∧ job.operation = .create args ∧
    Alone before args crew.catalogue job.stage

theorem onItsOwn_perform {before : Catalogue} {args : CreateArgs} {n : Nat}
    (own : crew.OnItsOwn before args n) (unnamed : args.name = none)
    (left : before.nextPort < Catalogue.portLimit) (unhindered : act.unhindered n = true) :
    (crew.perform plan act).OnItsOwn before args n := by
  obtain ⟨job, found, isCreate, alone⟩ := own
  have happens := happens_perform plan crew act
  generalize crew.perform plan act = after at happens
  cases happens with
  | idle => exact ⟨job, found, isCreate, alone⟩
  | seeded | called => cases unhindered
  | answered there reporting =>
    obtain ⟨same, accepted⟩ := Bool.and_eq_true_iff.mp unhindered
    cases beq_iff_eq.mp same
    cases found.symm.trans there
    refine ⟨_, List.getElem?_set_self (List.getElem?_eq_some_iff.mp found).1, isCreate, ?_⟩
    rw [reporting] at alone
    rw [if_pos accepted]
    exact alone.accepted
  | @stepped _ now cancelled _ phase demand there working works =>
    obtain ⟨same, uncancelled⟩ := Bool.and_eq_true_iff.mp unhindered
    cases beq_iff_eq.mp same
    cases found.symm.trans there
    obtain ⟨catalogue, next, found', operation, stage⟩ :=
      follow_landing found working (job.nameAfter crew.catalogue phase) demand
    refine ⟨next, found', operation.trans isCreate, ?_⟩
    obtain ⟨_, name, _⟩ := job
    cases isCreate
    rw [catalogue, stage]
    rw [working] at alone
    exact alone.works unnamed left (by simpa using uncancelled) works

theorem onItsOwn_run {before : Catalogue} {args : CreateArgs} {n : Nat} (unnamed : args.name = none)
    (left : before.nextPort < Catalogue.portLimit) (own : List Act) {crew : Crew}
    (start : crew.OnItsOwn before args n) (unhindered : ∀ act ∈ own, act.unhindered n = true) :
    (crew.run plan own).OnItsOwn before args n := by
  induction own generalizing crew with
  | nil => exact start
  | cons act own ih =>
    obtain ⟨first, rest⟩ := List.forall_mem_cons.mp unhindered
    exact ih (onItsOwn_perform start unnamed left first) rest

theorem ends_alone (plan : Plan) (bound : Nat) {before : Catalogue} {args : CreateArgs} {n : Nat}
    {crew : Crew} {job : Job} (unnamed : args.name = none)
    (left : before.nextPort < Catalogue.portLimit) (found : crew.jobs[n]? = some job)
    (isCreate : job.operation = .create args) (alone : Alone before args crew.catalogue job.stage)
    (bounded : remaining plan job < bound) :
    ∃ more, (∀ act ∈ more, act.unhindered n = true) ∧
      ∃ last value, (crew.run plan more).jobs[n]? = some last ∧ last.stage = .ended value := by
  induction bound generalizing crew job with
  | zero => exact absurd bounded (Nat.not_lt_zero _)
  | succ bound ih =>
    have goesOn {phase : Phase} (underWay : job.phase? = some phase)
        (creates : ∀ due, phase ≠ .delayed due) :
        ∃ more, (∀ act ∈ more, act.unhindered n = true) ∧
          ∃ last value, (crew.run plan more).jobs[n]? = some last ∧
            last.stage = .ended value := by
      obtain ⟨act, unhindered, next, there, creation, less⟩ :=
        advances_own plan found isCreate underWay creates
      obtain ⟨next', there', -, alone'⟩ :=
        onItsOwn_perform ⟨job, found, isCreate, alone⟩ unnamed left unhindered
      cases there.symm.trans there'
      obtain ⟨more, rest, ends⟩ := ih there creation alone' (by omega)
      exact ⟨act :: more, List.forall_mem_cons.mpr ⟨unhindered, rest⟩, ends⟩
    obtain ⟨operation, name, stage⟩ := job
    generalize crew.catalogue = world at alone
    cases alone with
    | clashed | registered => exact ⟨[], nofun, _, _, found, rfl⟩
    | entering | ported => exact goesOn rfl nofun
    | working _ named | reporting _ named =>
      refine goesOn rfl ?_
      rintro due rfl
      cases named

/-- The creation that is made now has come to that end, with nothing done since but what is its
own. -/
def EndsBy (plan : Plan) (crew : Crew) (args : CreateArgs) (own : List Act) (last : Crew)
    (value : ResultValue) : Prop :=
  (∀ act ∈ own, act.unhindered crew.jobs.length = true) ∧
    last = (crew.perform plan (.call (.create args))).run plan own ∧
    ∃ job, last.jobs[crew.jobs.length]? = some job ∧ job.stage = .ended value

/-- A creation that is made now and left alone succeeds, under a name that is not taken. -/
def PicksUsable (plan : Plan) (crew : Crew) (args : CreateArgs) : Prop :=
  ∀ own last value, crew.EndsBy plan args own last value → ∃ name,
    crew.catalogue.contains name = false ∧ value = .final (.created (.complete name))

structure Unaided (plan : Plan) (acts : List Act) (crew : Crew) (args : CreateArgs) : Prop where
  reached : crew = run plan {} acts
  ends : ∀ own, (∀ act ∈ own, act.unhindered crew.jobs.length = true) →
    ∃ more last value, crew.EndsBy plan args (own ++ more) last value
  succeeds : crew.catalogue.contains (madeUp crew.catalogue.nextName) = false →
    ∀ own last value, crew.EndsBy plan args own last value →
      value = .final (.created (.complete (madeUp crew.catalogue.nextName))) ∧
        last.catalogue.entries = (crew.catalogue.put (madeUp crew.catalogue.nextName)
          (fitted args (madeUp crew.catalogue.nextName) (.ofNat crew.catalogue.nextPort))).entries
  clashes : crew.catalogue.contains (madeUp crew.catalogue.nextName) = true →
    ∀ own last value, crew.EndsBy plan args own last value →
      value = .failed
          ⟨.alreadyExists, s!"Instance '{madeUp crew.catalogue.nextName}' already exists"⟩ ∧
        last.catalogue.entries = crew.catalogue.entries
  asked : crew.catalogue.contains (madeUp crew.catalogue.nextName) = true →
    ∃ act ∈ acts, act.asks? = some (madeUp crew.catalogue.nextName)
  usable : crew.PicksUsable plan args ↔
    crew.catalogue.contains (madeUp crew.catalogue.nextName) = false

theorem alone_of_endsBy {args : CreateArgs} {own : List Act} {last : Crew} {value : ResultValue}
    (unnamed : args.name = none) (left : crew.catalogue.nextPort < Catalogue.portLimit)
    (ends : crew.EndsBy plan args own last value) :
    Alone crew.catalogue args last.catalogue (.ended value) := by
  obtain ⟨unhindered, rfl, job, found, ended⟩ := ends
  have start : (crew.perform plan (.call (.create args))).OnItsOwn crew.catalogue args
      crew.jobs.length := ⟨_, List.getElem?_concat_length, rfl, .entering⟩
  obtain ⟨job', found', -, alone⟩ := onItsOwn_run unnamed left own start unhindered
  cases found.symm.trans found'
  exact ended ▸ alone

/-- A creation without a name, made while there is a port left, succeeds by itself unless the next
name that is made up was asked for before and is taken. -/
theorem unaided_of_acts (plan : Plan) (acts : List Act) (args : CreateArgs)
    (unnamed : args.name = none)
    (left : (run plan {} acts).catalogue.nextPort < Catalogue.portLimit) :
    Unaided plan acts (run plan {} acts) args := by
  have asked := asked_of_taken plan acts
  obtain ⟨crew, reached⟩ : ∃ crew, crew = run plan {} acts := ⟨_, rfl⟩
  rw [← reached] at left asked ⊢
  have ends (own : List Act)
      (unhindered : ∀ act ∈ own, act.unhindered crew.jobs.length = true) :
      ∃ more last value, crew.EndsBy plan args (own ++ more) last value := by
    have start : (crew.perform plan (.call (.create args))).OnItsOwn crew.catalogue args
        crew.jobs.length := ⟨_, List.getElem?_concat_length, rfl, .entering⟩
    obtain ⟨job, found, isCreate, alone⟩ := onItsOwn_run unnamed left own start unhindered
    obtain ⟨more, rest, last, value, found, ended⟩ :=
      ends_alone plan _ unnamed left found isCreate alone (Nat.lt_succ_self _)
    refine ⟨more, _, value, ?_, rfl, last, ?_, ended⟩
    · exact fun act listed => (List.mem_append.mp listed).elim (unhindered act) (rest act)
    · rw [run_append]
      exact found
  have succeeds (free : crew.catalogue.contains (madeUp crew.catalogue.nextName) = false)
      (own : List Act) (last : Crew) (value : ResultValue)
      (endsBy : crew.EndsBy plan args own last value) :
      value = .final (.created (.complete (madeUp crew.catalogue.nextName))) ∧
        last.catalogue.entries = (crew.catalogue.put (madeUp crew.catalogue.nextName)
          (fitted args (madeUp crew.catalogue.nextName)
            (.ofNat crew.catalogue.nextPort))).entries := by
    have alone := alone_of_endsBy unnamed left endsBy
    generalize last.catalogue = world at alone
    cases alone with
    | clashed taken => cases taken.symm.trans free
    | registered => exact ⟨rfl, rfl⟩
  have clashes (taken : crew.catalogue.contains (madeUp crew.catalogue.nextName) = true)
      (own : List Act) (last : Crew) (value : ResultValue)
      (endsBy : crew.EndsBy plan args own last value) :
      value = .failed
          ⟨.alreadyExists, s!"Instance '{madeUp crew.catalogue.nextName}' already exists"⟩ ∧
        last.catalogue.entries = crew.catalogue.entries := by
    have alone := alone_of_endsBy unnamed left endsBy
    generalize last.catalogue = world at alone
    cases alone with
    | clashed => exact ⟨rfl, rfl⟩
    | registered free => cases taken.symm.trans free
  refine ⟨reached, ends, succeeds, clashes, asked, fun usable => ?_, fun free => ?_⟩
  · rw [← Bool.not_eq_true]
    intro taken
    obtain ⟨own, last, value, endsBy⟩ := ends [] nofun
    obtain ⟨name, -, succeeded⟩ := usable _ last value endsBy
    cases (clashes taken _ last value endsBy).1.symm.trans succeeded
  · intro own last value endsBy
    exact ⟨_, free, (succeeds free own last value endsBy).1⟩

def occupied : List Act := [.seed "vm1" {}]

theorem unaided_occupied : ({} : CreateArgs).name = none ∧
    (run {} {} occupied).catalogue.nextPort < Catalogue.portLimit ∧
    Unaided {} occupied (run {} {} occupied) {} ∧
    ((run {} {} occupied).run {} [.call (.create {}), .step 0 0 false]).jobs.map (·.stage) =
      [.ended (.failed ⟨.alreadyExists, "Instance 'vm1' already exists"⟩)] ∧
    ((run {} {} occupied).run {}
        [.call (.create {}), .step 0 0 false, .call (.create {}), .step 1 0 false, .step 1 0 false,
          .answer 1 true, .step 1 0 false, .step 1 0 false, .answer 1 true, .step 1 0 false,
          .step 1 0 false, .step 1 0 false]).jobs.map (·.stage) =
      [.ended (.failed ⟨.alreadyExists, "Instance 'vm1' already exists"⟩),
        .ended (.final (.created { finished := true, name := "vm2", line := none }))] := by
  have left : (run {} {} occupied).catalogue.nextPort < Catalogue.portLimit := by decide
  exact ⟨rfl, left, unaided_of_acts {} occupied {} rfl left, rfl, rfl⟩

/-- There is a port left and nothing else is going on, and yet the creation fails. -/
theorem not_picksUsable_occupied : (run {} {} occupied).catalogue.nextPort < Catalogue.portLimit ∧
    ¬ (run {} {} occupied).PicksUsable {} {} := by
  refine ⟨by decide, fun usable => ?_⟩
  obtain ⟨name, -, succeeded⟩ := usable [.step 0 0 false] _ (.failed (.alreadyExists "vm1"))
    ⟨by decide, rfl, _, rfl, rfl⟩
  cases succeeded

end Crew

end Simulated

end InstanceBroker
