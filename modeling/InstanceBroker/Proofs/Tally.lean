import InstanceBroker.Proofs.Crew

namespace InstanceBroker.Simulated.Crew

variable {plan : Plan} {crew after : Crew} {act : Act}

theorem countP_set {α : Type} (p : α → Bool) {items : List α} {n : Nat} {old : α} (new : α)
    (found : items[n]? = some old) (uncounted : p old = false) :
    (items.set n new).countP p = items.countP p + (p new).toNat := by
  obtain ⟨within, same⟩ := List.getElem?_eq_some_iff.mp found
  rw [List.countP_set within, same, uncounted]
  cases p new <;> rfl

/-- For every name, what was there from the start and what was created is what was deleted and what
is there. -/
def Balanced (origin : String → Bool) (crew : Crew) : Prop :=
  ∀ name, crew.jobs.countP (Job.created name) + (origin name).toNat =
    crew.jobs.countP (Job.deleted name) + (crew.catalogue.contains name).toNat

theorem Balanced.moved {origin : String → Bool} (balanced : crew.Balanced origin) {n : Nat}
    {job next : Job} {phase : Phase} (found : crew.jobs[n]? = some job)
    (underWay : job.phase? = some phase) (jobs : after.jobs = crew.jobs.set n next)
    (change : ∀ name, (next.created name).toNat + (crew.catalogue.contains name).toNat =
      (next.deleted name).toNat + (after.catalogue.contains name).toNat) :
    after.Balanced origin := by
  intro name
  have before := Job.uncounted_of_phase underWay name
  rw [jobs, countP_set (Job.created name) next found before.1,
    countP_set (Job.deleted name) next found before.2]
  have balanced := balanced name
  have change := change name
  omega

theorem change_of_uncounted {job : Job} (uncounted : job.Uncounted) {catalogue later : Catalogue}
    (same : ∀ name, later.contains name = catalogue.contains name) (name : String) :
    (job.created name).toNat + (catalogue.contains name).toNat =
      (job.deleted name).toNat + (later.contains name).toNat := by
  rw [(uncounted name).1, (uncounted name).2, same]

theorem balanced_effects {origin : String → Bool} (seedless : act.isSeed = false)
    (balanced : crew.Balanced origin) (effects : Effects crew act after) :
    after.Balanced origin := by
  cases effects with
  | idle => exact balanced
  | seeded => cases seedless
  | @called operation =>
    intro name
    have uncounted : ({ operation, stage := .working .entering } : Job).created name = false ∧
        ({ operation, stage := .working .entering } : Job).deleted name = false :=
      Job.uncounted_of_phase rfl name
    simp only [List.countP_append, List.countP_singleton, uncounted]
    exact balanced name
  | moved _ found underWay _ _ uncounted entries =>
    refine balanced.moved found underWay rfl (change_of_uncounted uncounted fun name => ?_)
    rw [Catalogue.contains, Catalogue.find?, entries]
    rfl
  | ported found _ working =>
    exact balanced.moved found (Job.phase?_of_working working) rfl
      (change_of_uncounted (Job.uncounted_of_phase rfl) fun _ => rfl)
  | @registered _ _ _ _ job name _ found isCreate working free =>
    refine balanced.moved found (Job.phase?_of_working working) rfl fun other => ?_
    simp only [Job.created, Job.deleted, isCreate, Catalogue.contains_put]
    by_cases same : other = name
    · simp [same, free, CreateResult.complete]
    · simp [beq_false_of_ne same, beq_false_of_ne (Ne.symm same), CreateResult.complete]
  | @deleted _ _ _ job _ name found isDelete working present =>
    refine balanced.moved found (Job.phase?_of_working working) rfl fun other => ?_
    simp only [Job.created, Job.deleted, isDelete, Catalogue.contains_erase]
    by_cases same : other = name
    · simp [same, present]
    · simp [bne, beq_false_of_ne same, beq_false_of_ne (Ne.symm same)]
  | @amended _ _ _ _ _ _ name _ _ found _ working _ _ uncounted present =>
    refine balanced.moved found (Job.phase?_of_working working) rfl
      (change_of_uncounted uncounted fun other => ?_)
    rw [Catalogue.contains_put]
    by_cases same : other = name
    · simp [same, Catalogue.contains_of_find? present]
    · simp [same]

/-- The act by which a creation puts its instance into the catalogue. -/
structure Inserts (crew : Crew) (act : Act) (after : Crew) (n : Nat) (name : String) : Prop where
  concerned : act.concerns n = true
  underWay : ∃ job phase, crew.jobs[n]? = some job ∧ job.phase? = some phase
  succeeds : ∃ job, after.jobs[n]? = some job ∧ job.created name = true
  absent : crew.catalogue.contains name = false
  inserted : ∃ entry, entry.details.name = name ∧ entry.running = true ∧ ∀ other,
    after.catalogue.find? other = if other = name then some entry else crew.catalogue.find? other

theorem Effects.inserts (effects : Effects crew act after) {n : Nat} {name : String} {job : Job}
    (before : ∀ job, crew.jobs[n]? = some job → job.created name = false)
    (found : after.jobs[n]? = some job) (created : job.created name = true) :
    Inserts crew act after n name := by
  have unlikely {job : Job} (uncounted : job.created name = false)
      (created : job.created name = true) : Inserts crew act after n name :=
    absurd (uncounted.symm.trans created) nofun
  have other {m : Nat} {old next : Job} (there : crew.jobs[m]? = some old)
      (uncounted : next.created name = false) (found : (crew.jobs.set m next)[n]? = some job) :
      job.created name = false := by
    rcases found_set there found with ⟨_, rfl⟩ | ⟨_, found⟩
    · exact uncounted
    · exact before job found
  cases effects with
  | idle | seeded => exact unlikely (before job found) created
  | called =>
    rw [List.getElem?_append] at found
    split at found
    · exact unlikely (before job found) created
    · rw [List.mem_singleton.mp (List.mem_of_getElem? found)] at created
      exact unlikely (Job.uncounted_of_phase rfl name).1 created
  | moved _ there _ _ _ uncounted => exact unlikely (other there (uncounted name).1 found) created
  | ported there =>
    exact unlikely (other there (Job.uncounted_of_phase rfl name).1 found) created
  | deleted there isDelete =>
    refine unlikely (other there ?_ found) created
    simp only [Job.created, isDelete]
  | amended there _ _ _ _ uncounted => exact unlikely (other there (uncounted name).1 found) created
  | registered there isCreate working free =>
    rcases found_set there found with ⟨rfl, rfl⟩ | ⟨_, found⟩
    · have same := created
      simp only [Job.created, isCreate, CreateResult.complete, beq_iff_eq] at same
      subst same
      exact ⟨beq_self_eq_true _, ⟨_, _, there, Job.phase?_of_working working⟩,
        ⟨_, found, created⟩, free, _, rfl, rfl, fun other => Catalogue.find?_put ..⟩
    · exact unlikely (before job found) created

theorem Effects.spares (effects : Effects crew act after) {n : Nat} {job : Job} {args : CreateArgs}
    (concerned : act.concerns n = true) (found : crew.jobs[n]? = some job)
    (isCreate : job.operation = .create args) {name : String} {entry : Catalogue.Entry}
    (present : crew.catalogue.find? name = some entry) :
    after.catalogue.find? name = some entry := by
  cases effects with
  | idle | called | ported => exact present
  | seeded => cases concerned
  | moved _ _ _ _ _ _ entries =>
    rw [Catalogue.find?, entries]
    exact present
  | @registered _ _ _ _ _ taken _ _ _ _ free =>
    have apart : name ≠ taken := by
      rintro rfl
      cases free.symm.trans (Catalogue.contains_of_find? present)
    rw [Catalogue.find?_put, if_neg apart]
    exact present
  | deleted there isDelete =>
    cases job_of_concerns concerned there found
    cases isCreate.symm.trans isDelete
  | amended there notCreate =>
    cases job_of_concerns concerned there found
    rw [isCreate] at notCreate
    exact absurd rfl notCreate

/-- The errors of a creation under a name. -/
def CreationError (name : String) (error : OperationError) : Prop :=
  error = ⟨.alreadyExists, s!"Instance '{name}' already exists"⟩ ∨
    error = ⟨.cancelled, "Operation cancelled"⟩ ∨
    error = ⟨.backend, "No SSH ports left to forward"⟩

structure Concludes (crew : Crew) (args : CreateArgs) (name : String) (value : ResultValue) :
    Prop where
  asked : ∀ asked, args.name = some asked → asked = name
  ends : value = .final (.created (.complete name)) ∨
    ∃ error, value = .failed error ∧ CreationError name error
  excluded : crew.catalogue.contains name = true → ∃ error, value = .failed error

theorem concludes_failed {args : CreateArgs} {name : String} {error : OperationError}
    (asked : ∀ asked, args.name = some asked → asked = name)
    (known : CreationError name error) :
    Concludes crew args name (.failed error) :=
  ⟨asked, .inr ⟨error, rfl, known⟩, fun _ => ⟨error, rfl⟩⟩

theorem concludes_of_works {context : Context} {job : Job} {args : CreateArgs} {phase : Phase}
    {catalogue : Catalogue} {outcome : Except OperationError job.operation.kind.Returned}
    (consistent : job.Consistent) (isCreate : job.operation = .create args)
    (working : job.stage = .working phase)
    (works : plan.Works context crew.catalogue job.operation phase (.finish catalogue outcome)) :
    ∃ name, job.nameAfter crew.catalogue phase = some name ∧
      Concludes crew args name (.ofOutcome job.operation.kind outcome) := by
  obtain ⟨name, settled, asked, source⟩ :=
    nameAfter_cases crew.catalogue consistent working isCreate
  refine ⟨name, settled, ?_⟩
  obtain ⟨operation, already, stage⟩ := job
  dsimp only at isCreate works outcome
  subst isCreate
  cases works with
  | clashed =>
    rcases source with ⟨_, rfl⟩ | other | other
    · exact concludes_failed asked (.inl rfl)
    · cases other
    · cases other
  | starved => exact concludes_failed asked (.inr (.inr rfl))
  | outrun =>
    rcases source with ⟨other, _⟩ | same | other
    · cases other
    · cases same
      exact concludes_failed asked (.inl rfl)
    · cases other
  | registered free =>
    rcases source with ⟨other, _⟩ | same | other
    · cases other
    · cases same
      exact ⟨asked, .inl rfl, fun taken => absurd (free.symm.trans taken) nofun⟩
    · cases other
  | interrupted => exact concludes_failed asked (.inr (.inl rfl))
  | carriedOut notCreate => exact absurd rfl notCreate

theorem concludes_of_ended (consistent : ∀ job ∈ crew.jobs, job.Consistent) {n : Nat}
    {job next : Job} {args : CreateArgs} {phase : Phase} {value : ResultValue}
    (found : crew.jobs[n]? = some job) (isCreate : job.operation = .create args)
    (underWay : job.phase? = some phase)
    (later : (crew.perform plan act).jobs[n]? = some next) (ended : next.stage = .ended value) :
    ∃ name, next.name = some name ∧ Concludes crew args name value := by
  have stays (kept : crew.jobs[n]? = some next) :
      ∃ name, next.name = some name ∧ Concludes crew args name value := by
    cases found.symm.trans kept
    rw [Job.phase?, ended] at underWay
    cases underWay
  have happens := happens_perform plan crew act
  generalize crew.perform plan act = after at happens later
  cases happens with
  | idle | seeded => exact stays later
  | called =>
    rw [List.getElem?_append_left (List.getElem?_eq_some_iff.mp found).1] at later
    exact stays later
  | answered there =>
    rcases found_set there later with ⟨_, rfl⟩ | ⟨_, kept⟩
    · cases ended
    · exact stays kept
  | @stepped m _ _ old _ demand there working works =>
    have own := consistent old (List.mem_of_getElem? there)
    cases demand with
    | wait => exact stays later
    | proceed | report =>
      rcases found_set there later with ⟨_, rfl⟩ | ⟨_, kept⟩
      · cases ended
      · exact stays kept
    | finish catalogue outcome =>
      rcases found_set there later with ⟨rfl, rfl⟩ | ⟨_, kept⟩
      · cases there.symm.trans found
        cases ended
        exact concludes_of_works own isCreate working works
      · exact stays kept

def sow (seeds : List (String × MachineSpec)) : List Act :=
  seeds.map fun (name, spec) => .seed name spec

def seeded (plan : Plan) (seeds : List (String × MachineSpec)) : Crew := run plan {} (sow seeds)

theorem perform_seed (plan : Plan) (crew : Crew) (name : String) (spec : MachineSpec) :
    (crew.perform plan (.seed name spec)).jobs = crew.jobs ∧
      (crew.catalogue.nextPort < Catalogue.portLimit ∧
          (crew.perform plan (.seed name spec)).catalogue.nextPort = crew.catalogue.nextPort + 1 ∧
          (∀ other, (crew.perform plan (.seed name spec)).catalogue.contains other =
            (other == name || crew.catalogue.contains other)) ∨
        Catalogue.portLimit ≤ crew.catalogue.nextPort ∧
          (crew.perform plan (.seed name spec)).catalogue = crew.catalogue) := by
  refine ⟨rfl, ?_⟩
  simp only [perform, Catalogue.seed]
  obtain ⟨left, taken⟩ | ⟨none, failed⟩ := crew.catalogue.takePort_cases
  · rw [taken]
    exact .inl ⟨left, rfl, fun other => Catalogue.contains_put ..⟩
  · rw [failed]
    exact .inr ⟨none, rfl⟩

/-- There are as many instances seeded as there are ports, and the others are left out. -/
theorem contains_sow (plan : Plan) (crew : Crew) (seeds : List (String × MachineSpec)) :
    (crew.run plan (sow seeds)).jobs = crew.jobs ∧
      ∀ other, (crew.run plan (sow seeds)).catalogue.contains other =
        (crew.catalogue.contains other ||
          decide (other ∈
            (seeds.take (Catalogue.portLimit - crew.catalogue.nextPort)).map (·.1))) := by
  induction seeds generalizing crew with
  | nil => simp [sow, run]
  | cons first seeds ih =>
    obtain ⟨name, spec⟩ := first
    obtain ⟨jobs, contains⟩ := ih (crew.perform plan (.seed name spec))
    obtain ⟨same, ⟨left, nextPort, put⟩ | ⟨none, kept⟩⟩ :=
      perform_seed plan crew name spec
    · have count : Catalogue.portLimit - crew.catalogue.nextPort =
          Catalogue.portLimit - (crew.catalogue.nextPort + 1) + 1 := by omega
      refine ⟨jobs.trans same, fun other => (contains other).trans ?_⟩
      rw [nextPort, put, count, List.take_succ_cons]
      by_cases equal : other = name
      · simp [equal]
      · simp [equal, beq_false_of_ne equal]
    · have count : Catalogue.portLimit - crew.catalogue.nextPort = 0 := Nat.sub_eq_zero_of_le none
      refine ⟨jobs.trans same, fun other => (contains other).trans ?_⟩
      rw [kept, count]
      simp

theorem balanced_run {origin : String → Bool} (acts : List Act)
    (seedless : ∀ act ∈ acts, act.isSeed = false) (balanced : crew.Balanced origin) :
    (crew.run plan acts).Balanced origin := by
  induction acts generalizing crew with
  | nil => exact balanced
  | cons act acts ih =>
    obtain ⟨first, rest⟩ := List.forall_mem_cons.mp seedless
    exact ih rest (balanced_effects first balanced (effects_perform plan crew act))

theorem exists_inserts (plan : Plan) (crew : Crew) (acts : List Act) {n : Nat} {name : String}
    (before : ∀ job, crew.jobs[n]? = some job → job.created name = false) {job : Job}
    (found : (crew.run plan acts).jobs[n]? = some job) (created : job.created name = true) :
    ∃ earlier act later, acts = earlier ++ act :: later ∧
      Inserts (crew.run plan earlier) act ((crew.run plan earlier).perform plan act) n name := by
  induction acts generalizing crew with
  | nil => exact absurd ((before job found).symm.trans created) nofun
  | cons act acts ih =>
    by_cases done : ∃ next, (crew.perform plan act).jobs[n]? = some next ∧
      next.created name = true
    · obtain ⟨next, there, succeeded⟩ := done
      exact ⟨[], act, acts, rfl, (effects_perform plan crew act).inserts before there succeeded⟩
    · have pending : ∀ next, (crew.perform plan act).jobs[n]? = some next →
          next.created name = false := fun next there =>
        Bool.eq_false_iff.mpr fun succeeded => done ⟨next, there, succeeded⟩
      obtain ⟨earlier, last, later, rfl, inserts⟩ := ih (crew.perform plan act) pending found
      exact ⟨act :: earlier, last, later, rfl, inserts⟩

/-- What the calls have come to that were made on a service since it was built. -/
structure Tally (plan : Plan) (built : Crew) (names : List String) (acts : List Act) (crew : Crew) :
    Prop where
  reached : crew = built.run plan acts
  inserts : ∀ n job name, crew.jobs[n]? = some job → job.created name = true →
    ∃ earlier act later, acts = earlier ++ act :: later ∧
      Inserts (built.run plan earlier) act ((built.run plan earlier).perform plan act) n name
  spares : ∀ act n job args, crew.jobs[n]? = some job → job.operation = .create args →
    act.concerns n = true → ∀ name entry, crew.catalogue.find? name = some entry →
      (crew.perform plan act).catalogue.find? name = some entry
  /-- Whoever comes to an end while there is an instance of the name fails. -/
  excludes : ∀ (act : Act) (n : Nat) (job next : Job) args phase, crew.jobs[n]? = some job →
    job.operation = .create args → job.phase? = some phase →
      (crew.perform plan act).jobs[n]? = some next → ∀ value, next.stage = .ended value →
        ∃ name, next.name = some name ∧ Concludes crew args name value
  balance : ∀ name, crew.jobs.countP (Job.created name) + (if name ∈ names then 1 else 0) =
    crew.jobs.countP (Job.deleted name) + (if crew.catalogue.contains name then 1 else 0)

/-- However the calls on a service interleave, no instance is replaced by a creation and none is
lost: the calls that succeeded account for what is in the catalogue. -/
theorem tally_of_acts (plan : Plan) (seeds : List (String × MachineSpec)) (acts : List Act)
    (seedless : ∀ act ∈ acts, act.isSeed = false) :
    Tally plan (seeded plan seeds) ((seeds.take 55513).map (·.1)) acts
      ((seeded plan seeds).run plan acts) := by
  obtain ⟨jobs, contains⟩ := contains_sow plan {} seeds
  have unmade : (seeded plan seeds).jobs = [] := jobs
  have consistent : ∀ job ∈ ((seeded plan seeds).run plan acts).jobs, job.Consistent := by
    rw [seeded, ← run_append]
    exact consistent_run plan _
  refine ⟨rfl, fun n job name found created => ?_,
    fun act n job args found isCreate concerned name entry present => ?_,
    fun act n job next args phase found isCreate underWay later value ended => ?_, fun name => ?_⟩
  · refine exists_inserts plan _ acts (fun job there => ?_) found created
    rw [unmade] at there
    cases there
  · exact (effects_perform plan _ act).spares concerned found isCreate present
  · exact concludes_of_ended consistent found isCreate underWay later ended
  · have start : (seeded plan seeds).Balanced
        fun name => decide (name ∈ (seeds.take 55513).map (·.1)) := by
      intro name
      have here : (seeded plan seeds).catalogue.contains name =
          decide (name ∈ (seeds.take 55513).map (·.1)) := by
        rw [seeded, contains]
        rfl
      rw [unmade, here]
      simp
    have balanced : ((seeded plan seeds).run plan acts).Balanced _ :=
      balanced_run acts seedless start
    have counts (present : Bool) : present.toNat = if present = true then 1 else 0 := by
      cases present <;> rfl
    simpa only [counts, decide_eq_true_eq] using balanced name

def race : List Act :=
  [.call (.delete "vm1"), .call (.create { name := some "vm1" }),
    .call (.create { name := some "vm1" }), .step 0 0 false, .step 1 0 false, .step 2 0 false,
    .step 1 0 false, .step 2 0 false, .step 2 0 false, .step 1 0 false]

theorem tally_race : (∀ act ∈ race, act.isSeed = false) ∧
    Tally { creationSteps := [] } (seeded { creationSteps := [] } [("vm1", {})]) ["vm1"] race
      ((seeded { creationSteps := [] } [("vm1", {})]).run { creationSteps := [] } race) ∧
    ((seeded { creationSteps := [] } [("vm1", {})]).run { creationSteps := [] } race).jobs.map
        (·.stage) =
      [.ended (.final .done),
        .ended (.failed ⟨.alreadyExists, "Instance 'vm1' already exists"⟩),
        .ended (.final (.created (.complete "vm1")))] :=
  ⟨by decide, tally_of_acts _ [("vm1", {})] race (by decide), rfl⟩

end InstanceBroker.Simulated.Crew
