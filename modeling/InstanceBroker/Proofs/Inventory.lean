import Mathlib.Data.List.Nodup
import Mathlib.Data.List.Perm.Subperm
import InstanceBroker.Proofs.Crew
import InstanceBroker.Proofs.Termination

namespace InstanceBroker.Simulated

theorem filterMap_set_perm {α β : Type} (f : α → Option β) {items : List α} {n : Nat}
    {old : α} (new : α) (found : items[n]? = some old) :
    ((f old).toList ++ (items.set n new).filterMap f).Perm
      ((f new).toList ++ items.filterMap f) := by
  have cons (item : α) (rest : List α) :
      (item :: rest).filterMap f = (f item).toList ++ rest.filterMap f := by
    cases chosen : f item <;> simp [chosen]
  induction items generalizing n with
  | nil => cases found
  | cons first rest ih =>
    cases n with
    | zero =>
      cases found
      rw [List.set_cons_zero, cons, cons]
      exact List.perm_append_comm_assoc ..
    | succ n =>
      rw [List.set_cons_succ, cons, cons]
      exact (List.perm_append_comm_assoc ..).trans
        (((ih found).append_left _).trans (List.perm_append_comm_assoc ..))

def firstPort : Nat := 10022

def Described (item : String × Catalogue.Entry) : Prop :=
  item.2.details.name = item.1 ∧ item.2.details.ssh.keyPath = keyFile item.1

def Job.Barren (job : Job) : Prop := job.port? = none ∧ ∀ name, job.created name = false

namespace Crew

variable {plan : Plan} {crew after : Crew} {act : Act}

def held (crew : Crew) : List UInt16 := crew.jobs.filterMap (·.port?)

def inUse (crew : Crew) : List UInt16 := crew.catalogue.ports ++ crew.held

/-- Ports are handed out one after the other, and each of them is in one place at most. -/
structure Accounted (crew : Crew) : Prop where
  first : firstPort ≤ crew.catalogue.nextPort
  within : crew.catalogue.nextPort ≤ Catalogue.portLimit
  handed : crew.handed.map (·.toNat) =
    List.range' firstPort (crew.catalogue.nextPort - firstPort)
  apart : crew.inUse.Nodup
  known : ∀ port ∈ crew.inUse, port ∈ crew.handed

/-- The names of the catalogue stand in order, and each entry is under its own. -/
structure Shelved (crew : Crew) : Prop where
  ascending : Catalogue.Ascending crew.catalogue.entries
  described : ∀ item ∈ crew.catalogue.entries, Described item

theorem Shelved.put (shelved : crew.Shelved) {name : String} {entry : Catalogue.Entry}
    (described : Described (name, entry)) {after : Crew}
    (entries : after.catalogue.entries = (crew.catalogue.put name entry).entries) :
    after.Shelved := by
  constructor
  · rw [entries]
    exact shelved.ascending.put name entry
  · rw [entries]
    intro item among
    rcases List.mem_cons.mp ((Catalogue.put_perm shelved.ascending).mem_iff.mp among) with rfl | old
    · exact described
    · exact shelved.described item (List.mem_of_mem_filter old)

theorem shelved_effects (shelved : crew.Shelved) (effects : Effects crew act after) :
    after.Shelved := by
  cases effects with
  | idle => exact shelved
  | seeded => exact shelved.put ⟨rfl, rfl⟩ rfl
  | called | ported => exact ⟨shelved.ascending, shelved.described⟩
  | moved _ _ _ _ _ _ entries =>
    constructor
    · rw [entries]
      exact shelved.ascending
    · rw [entries]
      exact shelved.described
  | registered => exact shelved.put ⟨rfl, rfl⟩ rfl
  | deleted =>
    exact ⟨shelved.ascending.erase _,
      fun item among => shelved.described item (List.mem_of_mem_filter among)⟩
  | amended _ _ _ _ _ _ present identity =>
    obtain ⟨name, keyPath⟩ := shelved.described _ (Catalogue.mem_of_find? present)
    exact shelved.put ⟨identity.1.trans name, identity.2 ▸ keyPath⟩ rfl

theorem ports_put (catalogue : Catalogue) (ascending : Catalogue.Ascending catalogue.entries)
    (name : String) (entry : Catalogue.Entry) :
    (catalogue.put name entry).ports.Perm
      (entry.details.ssh.port :: (catalogue.erase name).ports) :=
  (Catalogue.put_perm ascending).map _

theorem ports_erase (catalogue : Catalogue) (name : String) :
    (catalogue.erase name).ports.Sublist catalogue.ports := List.filter_sublist.map _

theorem held_set {n : Nat} {job next : Job} (found : crew.jobs[n]? = some job)
    (port : next.port? = none ∨ next.port? = job.port?) :
    ((crew.jobs.set n next).filterMap (·.port?)).Subperm crew.held := by
  have perm := filterMap_set_perm Job.port? next found
  rcases port with none | same
  · rw [none, Option.toList_none, List.nil_append] at perm
    exact (List.sublist_append_right ..).subperm.trans perm.subperm
  · rw [same] at perm
    exact ((List.perm_append_left_iff _).mp perm).subperm

theorem Accounted.fewer (accounted : crew.Accounted) (handed : after.handed = crew.handed)
    (nextPort : after.catalogue.nextPort = crew.catalogue.nextPort)
    (inUse : after.inUse.Subperm crew.inUse) : after.Accounted where
  first := nextPort ▸ accounted.first
  within := nextPort ▸ accounted.within
  handed := by rw [handed, nextPort, accounted.handed]
  apart := by
    obtain ⟨middle, perm, sublist⟩ := inUse
    exact perm.nodup_iff.mp (accounted.apart.sublist sublist)
  known port among := by
    rw [handed]
    exact accounted.known port (inUse.subset among)

theorem toNat_nextPort (left : crew.catalogue.nextPort < Catalogue.portLimit) :
    (UInt16.ofNat crew.catalogue.nextPort).toNat = crew.catalogue.nextPort :=
  Nat.mod_eq_of_lt (Nat.lt_trans left (by decide))

theorem Accounted.lt_nextPort (accounted : crew.Accounted) {port : UInt16}
    (given : port ∈ crew.handed) :
    firstPort ≤ port.toNat ∧ port.toNat < crew.catalogue.nextPort := by
  have among : port.toNat ∈ crew.handed.map (·.toNat) := List.mem_map_of_mem given
  rw [accounted.handed, List.mem_range'_1] at among
  have first := accounted.first
  omega

theorem Accounted.more (accounted : crew.Accounted)
    (left : crew.catalogue.nextPort < Catalogue.portLimit)
    (handed : after.handed = crew.handed ++ [.ofNat crew.catalogue.nextPort])
    (nextPort : after.catalogue.nextPort = crew.catalogue.nextPort + 1)
    (inUse : after.inUse.Subperm (.ofNat crew.catalogue.nextPort :: crew.inUse)) :
    after.Accounted where
  first := by
    rw [nextPort]
    exact Nat.le_succ_of_le accounted.first
  within := nextPort ▸ left
  handed := by
    have first := accounted.first
    have count : crew.catalogue.nextPort + 1 - firstPort =
        crew.catalogue.nextPort - firstPort + 1 := by omega
    have last : firstPort + 1 * (crew.catalogue.nextPort - firstPort) =
        crew.catalogue.nextPort := by omega
    rw [handed, nextPort, List.map_append, accounted.handed, count, List.range'_concat, last,
      List.map_singleton, toNat_nextPort left]
  apart := by
    have fresh : UInt16.ofNat crew.catalogue.nextPort ∉ crew.inUse := fun there => by
      have below := (accounted.lt_nextPort (accounted.known _ there)).2
      rw [toNat_nextPort left] at below
      exact Nat.lt_irrefl _ below
    obtain ⟨middle, perm, sublist⟩ := inUse
    exact perm.nodup_iff.mp ((List.nodup_cons.mpr ⟨fresh, accounted.apart⟩).sublist sublist)
  known port among := by
    rw [handed]
    rcases List.mem_cons.mp (inUse.subset among) with rfl | old
    · exact List.mem_append_right _ (List.mem_singleton.mpr rfl)
    · exact List.mem_append_left _ (accounted.known port old)

theorem accounted_effects (accounted : crew.Accounted) (shelved : crew.Shelved)
    (effects : Effects crew act after) : after.Accounted := by
  cases effects with
  | idle => exact accounted
  | @seeded name _ left =>
    refine accounted.more left rfl rfl ?_
    have ports := ports_put crew.catalogue.withPortTaken shelved.ascending name
    exact ((ports _).subperm.trans
      (List.Sublist.cons_cons _ (ports_erase ..)).subperm).append (.refl _)
  | called =>
    refine accounted.fewer rfl rfl (List.Perm.subperm ?_)
    simp [inUse, held, Job.port?, Job.phase?, Phase.port?]
  | moved _ found _ _ port _ entries nextPort =>
    refine accounted.fewer rfl nextPort ?_
    rw [inUse, Catalogue.ports, entries]
    exact (List.Subperm.refl _).append (held_set found port)
  | @ported n _ _ _ job name found _ working left =>
    refine accounted.more left rfl rfl ?_
    have perm := filterMap_set_perm Job.port?
      { job with stage := .working (.registering name (.ofNat crew.catalogue.nextPort)) } found
    have before : job.port? = none := by rw [Job.port?, Job.phase?_of_working working]; rfl
    rw [before, Option.toList_none, List.nil_append] at perm
    exact ((perm.append_left _).trans List.perm_middle).subperm
  | @registered n _ _ args job name port found _ working free =>
    refine accounted.fewer rfl rfl ?_
    have perm := filterMap_set_perm Job.port?
      { job with stage := .ended (.final (.created (.complete name))) } found
    have before : job.port? = some port := by rw [Job.port?, Job.phase?_of_working working]; rfl
    rw [before] at perm
    have ports := ports_put _ shelved.ascending name (fitted args name port)
    have same : (crew.catalogue.erase name).ports = crew.catalogue.ports :=
      congrArg (List.map _) (Catalogue.erase_of_missing free)
    rw [same] at ports
    -- The port moves from the creation to the new entry.
    exact ((ports.append_right _).trans
      (List.perm_middle.symm.trans (perm.append_left _))).subperm
  | deleted found _ _ =>
    refine accounted.fewer rfl rfl ?_
    exact (ports_erase ..).subperm.append (held_set found (.inl rfl))
  | @amended _ _ _ _ _ _ name entry there found _ _ _ port _ present identity =>
    have same : there.details.ssh.port = entry.details.ssh.port := by rw [identity.2]
    have before := (Catalogue.perm_of_find? shelved.ascending present).map
      (·.2.details.ssh.port)
    have ports := ports_put _ shelved.ascending name there
    rw [same] at ports
    exact accounted.fewer rfl rfl ((ports.trans before.symm).subperm.append (held_set found port))

theorem sound_run (plan : Plan) (acts : List Act) :
    (run plan {} acts).Shelved ∧ (run plan {} acts).Accounted := by
  refine run_invariant (P := fun crew => crew.Shelved ∧ crew.Accounted)
    (fun crew act sound => ?_) acts ?_
  · have effects := effects_perform plan crew act
    exact ⟨shelved_effects sound.1 effects, accounted_effects sound.2 sound.1 effects⟩
  · exact ⟨⟨.nil, nofun⟩, ⟨by decide, by decide, rfl, .nil, nofun⟩⟩

theorem handed_effects (effects : Effects crew act after) :
    crew.handed <+: after.handed ∧ crew.catalogue.nextPort ≤ after.catalogue.nextPort := by
  cases effects with
  | idle | called | registered | deleted | amended => exact ⟨List.prefix_rfl, Nat.le_refl _⟩
  | seeded | ported => exact ⟨List.prefix_append .., Nat.le_succ _⟩
  | moved _ _ _ _ _ _ _ nextPort => exact ⟨List.prefix_rfl, Nat.le_of_eq nextPort.symm⟩

theorem handed_run (plan : Plan) (crew : Crew) (later : List Act) :
    crew.handed <+: (crew.run plan later).handed ∧
      crew.catalogue.nextPort ≤ (crew.run plan later).catalogue.nextPort :=
  run_invariant (P := fun last => crew.handed <+: last.handed ∧
      crew.catalogue.nextPort ≤ last.catalogue.nextPort)
    (fun last act grown =>
      have next := handed_effects (effects_perform plan last act)
      ⟨grown.1.trans next.1, Nat.le_trans grown.2 next.2⟩)
    later ⟨List.prefix_rfl, Nat.le_refl _⟩

theorem barren_effects (spent : Catalogue.portLimit ≤ crew.catalogue.nextPort)
    (effects : Effects crew act after) {n : Nat}
    (before : ∀ job, crew.jobs[n]? = some job → job.Barren) {job : Job}
    (found : after.jobs[n]? = some job) : job.Barren := by
  have changed {m : Nat} {old next : Job} (there : crew.jobs[m]? = some old)
      (barren : old.Barren → next.Barren) (found : (crew.jobs.set m next)[n]? = some job) :
      job.Barren := by
    rcases found_set there found with ⟨rfl, rfl⟩ | ⟨_, found⟩
    · exact barren (before _ there)
    · exact before job found
  cases effects with
  | idle => exact before job found
  | seeded => exact before job found
  | called =>
    rw [List.getElem?_append] at found
    split at found
    · exact before job found
    · have fresh := List.mem_of_getElem? found
      rw [List.mem_singleton.mp fresh]
      refine ⟨rfl, fun name => ?_⟩
      exact (Job.uncounted_of_phase rfl name).1
  | moved _ there _ _ port uncounted =>
    refine changed there (fun barren => ⟨?_, fun name => (uncounted name).1⟩) found
    exact port.elim id fun same => same.trans barren.1
  | ported _ _ _ left => exact absurd left (Nat.not_lt_of_le spent)
  | registered there _ working =>
    refine changed there (fun barren => ?_) found
    have held := barren.1
    rw [Job.port?, Job.phase?_of_working working] at held
    cases held
  | deleted there isDelete =>
    refine changed there (fun _ => ⟨rfl, fun name => ?_⟩) found
    simp only [Job.created, isDelete]
  | amended there _ _ _ port uncounted =>
    refine changed there (fun barren => ⟨?_, fun name => (uncounted name).1⟩) found
    exact port.elim id fun same => same.trans barren.1

theorem entries_of_barren (spent : Catalogue.portLimit ≤ crew.catalogue.nextPort)
    (effects : Effects crew act after) {n : Nat} {job : Job} {args : CreateArgs}
    (concerned : act.concerns n = true) (found : crew.jobs[n]? = some job)
    (isCreate : job.operation = .create args) (barren : job.Barren) :
    after.catalogue.entries = crew.catalogue.entries ∧
      after.catalogue.nextPort = crew.catalogue.nextPort := by
  cases effects with
  | idle | called => exact ⟨rfl, rfl⟩
  | seeded => cases concerned
  | moved _ _ _ _ _ _ entries nextPort => exact ⟨entries, nextPort⟩
  | ported _ _ _ left => exact absurd left (Nat.not_lt_of_le spent)
  | registered there _ working =>
    cases job_of_concerns concerned there found
    have held := barren.1
    rw [Job.port?, Job.phase?_of_working working] at held
    cases held
  | deleted there isDelete =>
    cases job_of_concerns concerned there found
    cases isCreate.symm.trans isDelete
  | amended there notCreate =>
    cases job_of_concerns concerned there found
    rw [isCreate] at notCreate
    exact absurd rfl notCreate

theorem failed_of_barren {job : Job} {args : CreateArgs} {value : ResultValue}
    (consistent : job.Consistent) (isCreate : job.operation = .create args) (barren : job.Barren)
    (ended : job.stage = .ended value) : ∃ error, value = .failed error := by
  rcases consistent.creation_outcome isCreate ended with failed | ⟨result, rfl⟩
  · exact failed
  · have uncreated := barren.2 result.name
    simp [Job.created, isCreate, ended] at uncreated

def due : Phase → Nat
  | .resting _ _ due | .delayed due => due
  | _ => 0

theorem create_ne_wait (plan : Plan) (context : Context) (args : CreateArgs) (world : Catalogue)
    {phase : Phase} (ready : due phase ≤ context.now ∨ context.cancelled = true)
    (creates : ∀ due, phase ≠ .delayed due) :
    plan.create context args world phase ≠ .wait := by
  intro waits
  cases phase with
  | entering =>
    simp only [Plan.create] at waits
    split at waits
    all_goals split at waits <;> cases waits
  | announcing name steps =>
    cases steps with
    | nil =>
      simp only [Plan.create] at waits
      split at waits <;> cases waits
    | cons => cases waits
  | announced =>
    simp only [Plan.create] at waits
    split at waits
    · cases waits
    · split at waits <;> cases waits
  | refused => cases waits
  | resting name steps moment =>
    simp only [Plan.create] at waits
    split at waits
    · cases waits
    · rename_i uncancelled
      have reached : moment ≤ context.now := ready.resolve_right uncancelled
      rw [if_pos reached] at waits
      cases waits
  | registering =>
    simp only [Plan.create] at waits
    split at waits <;> cases waits
  | delayed moment => exact absurd rfl (creates moment)

def remaining (plan : Plan) (job : Job) : Nat :=
  match job.stage with
  | .working phase => 2 * plan.weight phase + 1
  | .reporting phase => 2 * plan.weight phase + 2
  | .ended _ => 0

theorem advances_own (plan : Plan) {n : Nat} {job : Job} {args : CreateArgs} {phase : Phase}
    (found : crew.jobs[n]? = some job) (isCreate : job.operation = .create args)
    (underWay : job.phase? = some phase) (creates : ∀ due, phase ≠ .delayed due) :
    ∃ act, act.unhindered n = true ∧ ∃ next, (crew.perform plan act).jobs[n]? = some next ∧
      next.operation = .create args ∧ remaining plan next < remaining plan job := by
  have within := (List.getElem?_eq_some_iff.mp found).1
  obtain ⟨operation, name, stage⟩ := job
  dsimp only at isCreate
  subst isCreate
  cases stage with
  | ended => cases underWay
  | reporting phase =>
    refine ⟨.answer n true, by simp [Act.unhindered],
      ⟨.create args, name, .working phase⟩, ?_, rfl, Nat.lt_succ_self _⟩
    simp only [perform, found]
    exact List.getElem?_set_self within
  | working phase =>
    cases underWay
    refine ⟨.step n (due phase) false, by simp [Act.unhindered], ?_⟩
    have lighter := plan.lighter_create ⟨n + 1, due phase, false⟩ args crew.catalogue phase
    have moves := create_ne_wait plan ⟨n + 1, due phase, false⟩ args crew.catalogue
      (.inl (Nat.le_refl _)) creates
    simp only [perform, found, Plan.step]
    generalize plan.create ⟨n + 1, due phase, false⟩ args crew.catalogue phase = demand
      at lighter moves
    cases demand with
    | wait => exact absurd rfl moves
    | proceed catalogue next =>
      refine ⟨_, List.getElem?_set_self within, rfl, ?_⟩
      simp only [Plan.Lighter] at lighter
      simp only [remaining]
      omega
    | report progress next =>
      refine ⟨_, List.getElem?_set_self within, rfl, ?_⟩
      simp only [Plan.Lighter] at lighter
      simp only [remaining]
      omega
    | finish => exact ⟨_, List.getElem?_set_self within, rfl, Nat.succ_pos _⟩

theorem fails_alone (plan : Plan) (n bound : Nat) {crew : Crew} {job : Job} {args : CreateArgs}
    (spent : Catalogue.portLimit ≤ crew.catalogue.nextPort)
    (consistent : ∀ job ∈ crew.jobs, job.Consistent) (found : crew.jobs[n]? = some job)
    (isCreate : job.operation = .create args) (barren : job.Barren)
    (bounded : remaining plan job < bound) :
    ∃ acts, (∀ act ∈ acts, act.concerns n = true) ∧
      (run plan crew acts).catalogue.entries = crew.catalogue.entries ∧
      ∃ last error, (run plan crew acts).jobs[n]? = some last ∧
        last.stage = .ended (.failed error) := by
  induction bound generalizing crew job with
  | zero => exact absurd bounded (Nat.not_lt_zero _)
  | succ bound ih =>
    have own := consistent job (List.mem_of_getElem? found)
    cases underWay : job.phase? with
    | none =>
      cases ended : job.stage with
      | ended value =>
        obtain ⟨error, rfl⟩ := failed_of_barren own isCreate barren ended
        exact ⟨[], nofun, rfl, job, error, found, ended⟩
      | working | reporting => simp [Job.phase?, ended] at underWay
    | some phase =>
      have creates : ∀ due, phase ≠ .delayed due := by
        rintro due rfl
        rcases own.named args isCreate with entering | ⟨_, _, _, phases⟩
        · simp [Job.phase?, entering] at underWay
        · rcases phases _ underWay with other | other <;> cases other
      obtain ⟨act, unhindered, next, there, creation, less⟩ :=
        advances_own plan found isCreate underWay creates
      have concerned := Act.concerns_of_unhindered unhindered
      have effects := effects_perform plan crew act
      have same := entries_of_barren spent effects concerned found isCreate barren
      have onlyOwn : ∀ other, crew.jobs[n]? = some other → other.Barren := fun other here =>
        Option.some.inj (found.symm.trans here) ▸ barren
      obtain ⟨acts, concern, entries, ends⟩ := ih (same.2 ▸ spent)
        (consistent_perform plan act consistent) there creation
        (barren_effects spent effects onlyOwn there) (by omega)
      refine ⟨act :: acts, ?_, entries.trans same.1, ends⟩
      exact List.forall_mem_cons.mpr ⟨concerned, concern⟩

/-- A creation that cannot succeed any more. -/
structure Futile (plan : Plan) (crew : Crew) (n : Nat) (job : Job) : Prop where
  untouched : ∀ act, act.concerns n = true →
    (crew.perform plan act).catalogue.entries = crew.catalogue.entries
  fails : ∀ value, job.stage = .ended value → ∃ error, value = .failed error
  ends : ∃ acts, (∀ act ∈ acts, act.concerns n = true) ∧
    (crew.run plan acts).catalogue.entries = crew.catalogue.entries ∧
    ∃ last error, (crew.run plan acts).jobs[n]? = some last ∧
      last.stage = .ended (.failed error)

/-- What is so from the moment on at which the last port was handed out. -/
structure Exhausted (plan : Plan) (crew : Crew) : Prop where
  stays : ∀ later, (crew.run plan later).catalogue.nextPort = 65535
  unseeded : ∀ later name spec,
    (crew.run plan later).perform plan (.seed name spec) = crew.run plan later
  /-- A creation that is made later, or has no port by then and did not succeed before. -/
  uncreated : ∀ later n job args, (∀ before, crew.jobs[n]? = some before → before.Barren) →
    (crew.run plan later).jobs[n]? = some job → job.operation = .create args →
      Futile plan (crew.run plan later) n job

structure Inventory (plan : Plan) (crew : Crew) : Prop where
  described : ∀ item ∈ crew.catalogue.entries, item.2.details.name = item.1 ∧
    item.2.details.ssh.keyPath = s!"/var/lib/vm-broker/instances/{item.1}/id_rsa"
  named : crew.catalogue.names.Nodup
  apart : crew.catalogue.ports.Nodup
  ranged : ∀ port ∈ crew.catalogue.ports, 10022 ≤ port.toNat ∧ port.toNat ≤ 65534 ∧
    port.toNat < crew.catalogue.nextPort
  once : crew.handed.Nodup
  given : ∀ port ∈ crew.catalogue.ports, port ∈ crew.handed
  onward : ∀ later, crew.handed <+: (crew.run plan later).handed ∧
    crew.catalogue.nextPort ≤ (crew.run plan later).catalogue.nextPort ∧
    (crew.run plan later).catalogue.nextPort ≤ 65535
  exhausted : 65535 ≤ crew.catalogue.nextPort → Exhausted plan crew

theorem Accounted.nodup_handed (accounted : crew.Accounted) : crew.handed.Nodup := by
  have numbers : (crew.handed.map (·.toNat)).Nodup := by
    rw [accounted.handed]
    exact List.nodup_range'
  exact numbers.of_map

theorem exhausted_of_spent (acts : List Act)
    (spent : 65535 ≤ (run plan {} acts).catalogue.nextPort) :
    (run plan {} acts).Exhausted plan := by
  have still (later : List Act) :
      65535 ≤ ((run plan {} acts).run plan later).catalogue.nextPort :=
    Nat.le_trans spent (handed_run plan _ later).2
  refine ⟨fun later => ?_, fun later name spec => ?_,
    fun later n job args before found isCreate => ?_⟩
  · have within := (sound_run plan (acts ++ later)).2.within
    rw [run_append] at within
    exact Nat.le_antisymm within (still later)
  · have effects := effects_perform plan ((run plan {} acts).run plan later) (.seed name spec)
    have spent := still later
    generalize (run plan {} acts).run plan later = crew at effects spent
    generalize crew.perform plan (.seed name spec) = after at effects
    cases effects with
    | idle => rfl
    | seeded left => exact absurd left (Nat.not_lt_of_le spent)
    | moved concerned => cases concerned
  · have consistent := consistent_run plan (acts ++ later)
    rw [run_append] at consistent
    have kept (last : Crew) (act : Act) (kept : 65535 ≤ last.catalogue.nextPort ∧
        ∀ job, last.jobs[n]? = some job → job.Barren) :
        65535 ≤ (last.perform plan act).catalogue.nextPort ∧
          ∀ job, (last.perform plan act).jobs[n]? = some job → job.Barren := by
      have effects := effects_perform plan last act
      exact ⟨Nat.le_trans kept.1 (handed_effects effects).2,
        fun _ here => barren_effects kept.1 effects kept.2 here⟩
    have own := (run_invariant kept later ⟨spent, before⟩).2 job found
    refine ⟨fun act concerned => ?_, fun value ended => ?_, ?_⟩
    · exact (entries_of_barren (still later) (effects_perform plan _ act) concerned found isCreate
        own).1
    · exact failed_of_barren (consistent job (List.mem_of_getElem? found)) isCreate own ended
    · exact fails_alone plan n _ (still later) consistent found isCreate own (Nat.lt_succ_self _)

/-- However a simulated service is seeded and whatever is done with it, its catalogue is in order
and no port is handed out twice. -/
theorem inventory_of_acts (plan : Plan) (acts : List Act) : (run plan {} acts).Inventory plan := by
  obtain ⟨shelved, accounted⟩ := sound_run plan acts
  have listed (port : UInt16) (among : port ∈ (run plan {} acts).catalogue.ports) :
      port ∈ (run plan {} acts).handed := accounted.known port (List.mem_append_left _ among)
  refine ⟨shelved.described, ?_, ?_, fun port among => ?_, accounted.nodup_handed, listed,
    fun later => ?_, exhausted_of_spent acts⟩
  · have ordered : (run plan {} acts).catalogue.names.Pairwise (· < ·) :=
      List.pairwise_map.mpr shelved.ascending
    exact ordered.imp fun less => less.ne
  · exact accounted.apart.sublist (List.sublist_append_left ..)
  · obtain ⟨low, high⟩ := accounted.lt_nextPort (listed port among)
    have within : (run plan {} acts).catalogue.nextPort ≤ 65535 := accounted.within
    exact ⟨low, by omega, high⟩
  · have within := (sound_run plan (acts ++ later)).2.within
    rw [run_append] at within
    obtain ⟨grown, more⟩ := handed_run plan (run plan {} acts) later
    exact ⟨grown, more, within⟩

end Crew

end InstanceBroker.Simulated
