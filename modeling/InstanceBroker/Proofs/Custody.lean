import InstanceBroker.Proofs.Custody.Deed
import InstanceBroker.Proofs.Order
import InstanceBroker.Service.Simulated

namespace InstanceBroker

variable {World Task : Type} {service : Service World Task}

def Timestamp.NotAfter (first later : Timestamp) : Prop :=
  first.seconds < later.seconds ∨ first.seconds = later.seconds ∧ first.nanos ≤ later.nanos

theorem Timestamp.notAfter_after (origin : Timestamp) {early late : Nat} (passed : early ≤ late) :
    (origin.after ⟨early⟩).NotAfter (origin.after ⟨late⟩) := by
  have grown : origin.nanos + early ≤ origin.nanos + late := Nat.add_le_add_left passed _
  have seconds := Nat.div_le_div_right (c := Duration.nanosPerSecond) grown
  have first := Nat.div_add_mod (origin.nanos + early) Duration.nanosPerSecond
  have second := Nat.div_add_mod (origin.nanos + late) Duration.nanosPerSecond
  simp only [NotAfter, after]
  rcases Nat.lt_or_eq_of_le seconds with less | equal
  · left
    omega
  · right
    rw [equal] at first
    constructor
    · rw [equal]
    · omega

namespace Broker

variable {broker after : Broker World Task} {events : List Event}

structure Surrounds (broker after : Broker World Task) : Prop where
  table : after.table = broker.table
  count : after.runs.length = broker.runs.length
  carries : ∀ id run, broker.run? id = some run →
    ∃ next, after.run? id = some next ∧ next.operation = run.operation

theorem Surrounds.of_same (table : after.table = broker.table) (runs : after.runs = broker.runs) :
    broker.Surrounds after where
  table := table
  count := congrArg List.length runs
  carries id run found := ⟨run, (broker.run?_congr runs id).trans found, rfl⟩

/-- A turn is a deed done once an action was taken from the queue, or it leaves the table alone. -/
theorem deed_step {turn : Turn World} (taken : broker.turn? service turn = some (after, events)) :
    (broker.Surrounds after ∧ handledIn events = []) ∨
    ∃ queue deed, after = ({ broker with queue }.perform service deed).1 ∧
      handledIn events = deed.handled?.toList := by
  have carries (id : TransactionId) (run : Run Task) (found : broker.run? id = some run) :
      ∃ next, after.run? id = some next ∧ next.operation = run.operation := by
    obtain ⟨next, there, step⟩ := run_step taken found
    exact ⟨next, there, step.operation_eq⟩
  cases turns_of_turn? taken with
  | dispatched running dispatches =>
    right
    cases dispatches with
    | stopped => exact ⟨broker.queue, .stop, rfl, rfl⟩
    | @handled action queue _ later up head handles =>
      refine ⟨queue, .handle action, ?_, ?_⟩
      · rw [perform, handles.handle_eq]
      · exact congrArg (action :: ·) handles.unqueued.2
    | @swept ttl due =>
      refine ⟨broker.queue, .sweep ttl due, rfl, ?_⟩
      simp [handledIn, List.filterMap_map, Event.handled?, Deed.handled?]
  | @advanced id moving next world _ moves advances =>
    have frame := broker.advanced_frame world id next
    refine .inl ⟨⟨?_, frame.2, carries⟩, advances.unqueued.2⟩
    rw [frame.1]
  | @progressed caller call phase actions rest _ asks progresses =>
    have frame := broker.moved_frame caller phase actions rest
    refine .inl ⟨⟨?_, frame.2.1, carries⟩, progresses.queues.2⟩
    rw [frame.1]
  | received =>
    left
    rw [receive_frame]
    exact ⟨.of_same rfl rfl, rfl⟩
  | changed => exact .inl ⟨.of_same rfl rfl, rfl⟩

end Broker

structure Entry (World Task : Type) where
  broker : Broker World Task
  deed : Deed

namespace Entry

def after (service : Service World Task) (entry : Entry World Task) : Broker World Task :=
  (entry.broker.perform service entry.deed).1

def events (service : Service World Task) (entry : Entry World Task) : List Event :=
  (entry.broker.perform service entry.deed).2

def opens? (entry : Entry World Task) : Option Slot := entry.broker.opens? entry.deed

end Entry

def allotted (service : Service World Task) (entries : List (Entry World Task)) :
    List TransactionId :=
  entries.flatMap fun entry => (entry.events service).filterMap Event.opened?

def opened (entries : List (Entry World Task)) : List Slot :=
  entries.flatMap fun entry => entry.opens?.toList

theorem opened_snoc (entries : List (Entry World Task)) (broker : Broker World Task) (deed : Deed) :
    opened (entries ++ [⟨broker, deed⟩]) = opened entries ++ (broker.opens? deed).toList := by
  simp [opened, Entry.opens?]

theorem allotted_eq (service : Service World Task) (entries : List (Entry World Task)) :
    allotted service entries = (opened entries).map (·.id) := by
  induction entries with
  | nil => rfl
  | cons entry entries ih =>
    have first := Broker.allots_perform service entry.broker entry.deed
    simp only [allotted, opened, Entry.events, Entry.opens?, List.flatMap_cons, List.map_append]
      at ih ⊢
    rw [first, ih]

/-- The deeds of a dispatcher, with anything else going on in between. -/
inductive Custody (service : Service World Task) (start : Broker World Task) :
    List (Entry World Task) → Broker World Task → Prop
  | begun : Custody service start [] start
  | surrounded {entries : List (Entry World Task)} {broker after : Broker World Task}
      (earlier : Custody service start entries broker) (surrounds : broker.Surrounds after) :
      Custody service start entries after
  | did {entries : List (Entry World Task)} {broker : Broker World Task}
      (earlier : Custody service start entries broker) (deed : Deed) :
      Custody service start (entries ++ [⟨broker, deed⟩]) (broker.perform service deed).1

structure Broker.Stocked (broker : Broker World Task) : Prop where
  numbered : broker.table.nextId = broker.runs.length + 1
  backed : ∀ slot ∈ broker.table.fixed, ∃ run, broker.run? slot.id = some run ∧
    run.operation.kind = slot.kind

theorem Broker.Stocked.surrounded {broker after : Broker World Task} (stocked : broker.Stocked)
    (surrounds : broker.Surrounds after) : after.Stocked where
  numbered := by rw [surrounds.table, surrounds.count, stocked.numbered]
  backed := by
    intro slot among
    rw [surrounds.table] at among
    obtain ⟨run, found, kind⟩ := stocked.backed slot among
    obtain ⟨next, there, same⟩ := surrounds.carries _ run found
    exact ⟨next, there, same ▸ kind⟩

theorem Broker.Stocked.perform {broker : Broker World Task} (stocked : broker.Stocked)
    (service : Service World Task) (deed : Deed) : (broker.perform service deed).1.Stocked where
  numbered := by
    obtain ⟨_, next, runs⟩ := table_perform service broker deed
    rw [next, runs, stocked.numbered]
    exact Nat.add_right_comm ..
  backed := by
    intro slot among
    have source := (table_perform service broker deed).1.subset among
    rcases List.mem_append.mp source with old | new
    · obtain ⟨run, found, kind⟩ := stocked.backed slot old
      obtain ⟨next, there, same⟩ := run?_perform service deed found
      refine ⟨next, there, ?_⟩
      rcases same with rfl | rfl <;> exact kind
    · have opens : broker.opens? deed = some slot := Option.mem_toList.mp new
      have begun := run?_opens service opens
      rw [← stocked.numbered] at begun
      obtain ⟨_, _, rfl, rfl⟩ := opens?_cases opens
      exact begun

theorem Broker.Stocked.fresh (config : Config) (origin : Timestamp) (world : World)
    (thrownAway : List TransactionId) :
    (Broker.fresh config origin world thrownAway : Broker World Task).Stocked where
  numbered := rfl
  backed slot among := by cases among

theorem Broker.Stocked.backed_of_find? {broker : Broker World Task} (stocked : broker.Stocked)
    {id : TransactionId} {slot : Slot} (found : broker.table.find? id = some slot) :
    ∃ run, broker.run? id = some run ∧ run.operation.kind = slot.kind := by
  have among : slot.fixed ∈ broker.table.fixed :=
    List.mem_map_of_mem (List.mem_of_find?_eq_some found)
  have number : slot.id = id := by simpa using List.find?_some found
  subst number
  exact stocked.backed slot.fixed among

theorem Broker.Stocked.numbered_of_live {broker : Broker World Task} (stocked : broker.Stocked)
    {id : TransactionId} (live : id ∈ broker.table.ids) :
    1 ≤ id ∧ id < broker.table.nextId := by
  obtain ⟨slot, found⟩ := Option.isSome_iff_exists.mp ((Table.isLive_iff ..).mpr live)
  obtain ⟨run, there, _⟩ := stocked.backed_of_find? found
  have bounds := (broker.run?_isSome_iff id).mp (Option.isSome_of_eq_some there)
  rw [stocked.numbered]
  exact ⟨bounds.1, Nat.lt_succ_of_le bounds.2⟩

namespace Custody

variable {start middle last : Broker World Task} {entries earlier later : List (Entry World Task)}

theorem append (first : Custody service start earlier middle)
    (rest : Custody service middle later last) : Custody service start (earlier ++ later) last := by
  induction rest with
  | begun => simpa using first
  | surrounded _ surrounds ih => exact ih.surrounded surrounds
  | did _ deed ih => simpa using ih.did deed

theorem stocked (custody : Custody service start entries last) (stocked : start.Stocked) :
    last.Stocked := by
  induction custody with
  | begun => exact stocked
  | surrounded _ surrounds ih => exact ih.surrounded surrounds
  | did _ deed ih => exact ih.perform service deed

theorem kept_order (custody : Custody service start entries last) :
    last.table.fixed.Sublist (start.table.fixed ++ opened entries) := by
  induction custody with
  | begun => exact List.sublist_append_left ..
  | surrounded _ surrounds ih => rwa [surrounds.table]
  | @did entries broker earlier deed ih =>
    have step := (Broker.table_perform service broker deed).1
    rw [opened_snoc, ← List.append_assoc]
    exact step.trans (ih.append_right _)

theorem counted (custody : Custody service start entries last) :
    last.table.nextId = start.table.nextId + (opened entries).length := by
  induction custody with
  | begun => rfl
  | surrounded _ surrounds ih => rwa [surrounds.table]
  | @did entries broker earlier deed ih =>
    rw [(Broker.table_perform service broker deed).2.1, ih, opened_snoc, List.length_append]
    exact Nat.add_assoc ..

theorem opened_ids (custody : Custody service start entries last) :
    (opened entries).map (·.id) = List.range' start.table.nextId (opened entries).length := by
  induction custody with
  | begun => rfl
  | surrounded _ _ ih => exact ih
  | @did entries broker earlier deed ih =>
    rw [opened_snoc, List.map_append, ih]
    cases opens : broker.opens? deed with
    | none => simp
    | some slot =>
      obtain ⟨_, _, rfl, rfl⟩ := Broker.opens?_cases opens
      simp [List.range'_1_concat, earlier.counted]

theorem opened_dates (custody : Custody service start entries last) :
    ((opened entries).map (·.createdAt)).Sublist (entries.map (·.broker.now)) := by
  induction custody with
  | begun => exact .refl _
  | surrounded _ _ ih => exact ih
  | @did entries broker earlier deed ih =>
    rw [opened_snoc, List.map_append, List.map_append]
    refine ih.append ?_
    cases opens : broker.opens? deed with
    | none => exact List.nil_sublist _
    | some slot =>
      obtain ⟨_, _, rfl, rfl⟩ := Broker.opens?_cases opens
      exact .refl _

theorem grown (custody : Custody service start entries last) :
    start.table.nextId ≤ last.table.nextId := by
  rw [custody.counted]
  exact Nat.le_add_right ..

theorem gone (custody : Custody service start entries last) {id : TransactionId}
    (old : id < start.table.nextId) (missing : start.table.find? id = none) :
    last.table.find? id = none := by
  induction custody with
  | begun => exact missing
  | surrounded _ surrounds ih => rwa [surrounds.table]
  | @did entries broker earlier deed ih =>
    cases there : (broker.perform service deed).1.table.find? id with
    | none => rfl
    | some slot =>
      have next := (Broker.born_perform service deed ih there).1
      have below := Nat.lt_of_lt_of_le old earlier.grown
      exact absurd next (Nat.ne_of_lt below)

theorem becomes (custody : Custody service start entries last) {id : TransactionId}
    {slot next : Slot} (old : id < start.table.nextId) (found : start.table.find? id = some slot)
    (there : last.table.find? id = some next) : slot.Becomes next := by
  induction custody generalizing next with
  | begun =>
    rw [found] at there
    cases there
    exact .refl slot
  | surrounded _ surrounds ih =>
    rw [surrounds.table] at there
    exact ih there
  | @did entries broker earlier deed ih =>
    have below := Nat.lt_of_lt_of_le old earlier.grown
    cases between : broker.table.find? id with
    | none =>
      have next := (Broker.born_perform service deed between there).1
      exact absurd next (Nat.ne_of_lt below)
    | some middle =>
      exact (ih between).trans
        (Broker.becomes_perform service deed between (Nat.ne_of_lt below) there)

theorem carries (custody : Custody service start entries last) {id : TransactionId} {run : Run Task}
    (found : start.run? id = some run) :
    ∃ next, last.run? id = some next ∧ next.operation = run.operation := by
  induction custody with
  | begun => exact ⟨run, found, rfl⟩
  | surrounded _ surrounds ih =>
    obtain ⟨middle, between, same⟩ := ih
    obtain ⟨next, there, kept⟩ := surrounds.carries _ middle between
    exact ⟨next, there, kept.trans same⟩
  | did _ deed ih =>
    obtain ⟨middle, between, same⟩ := ih
    obtain ⟨next, there, kept⟩ := Broker.run?_perform service deed between
    refine ⟨next, there, ?_⟩
    rcases kept with rfl | rfl <;> exact same

end Custody

structure WellKept (service : Service World Task) (earlier : List (Entry World Task))
    (middle : Broker World Task) (later : List (Entry World Task)) (last : Broker World Task) :
    Prop where
  numbered : ∀ id ∈ last.table.ids, 1 ≤ id ∧ id < last.table.nextId
  allots : ∀ entry ∈ earlier ++ later, ∀ operation caller,
    entry.deed = .handle (.start operation caller) →
    (entry.events service).filterMap Event.opened? = [entry.broker.table.nextId]
  ascending : (allotted service (earlier ++ later)).Pairwise (· < ·)
  fits : (allotted service (earlier ++ later)).length < UInt64.size - 1 →
    last.table.nextId < UInt64.size
  gone : ∀ id ∈ allotted service earlier, middle.table.find? id = none →
    last.table.find? id = none
  born : ∀ entry ∈ earlier ++ later, ∀ id slot, entry.broker.table.find? id = none →
    (entry.after service).table.find? id = some slot →
    id = entry.broker.table.nextId ∧ slot.state = .pending
  lives : ∀ id slot next, middle.table.find? id = some slot →
    last.table.find? id = some next →
    slot.Becomes next
  backed : ∀ id slot, middle.table.find? id = some slot → ∃ run, middle.run? id = some run ∧
    run.operation.kind = slot.kind ∧
    ∃ next, last.run? id = some next ∧ next.operation = run.operation
  channel : ∀ entry ∈ earlier ++ later, ∀ id run, entry.broker.run? id = some run →
    ∃ next, (entry.after service).run? id = some next ∧
      (next = run ∨ next = { run with cancelled := true })
  frame : ∀ entry ∈ earlier ++ later, ∀ id, ¬ entry.broker.Concerns entry.deed id →
    (entry.after service).table.find? id = entry.broker.table.find? id
  granted : ∀ id, (∃ table, last.table.access id = .ok table) ↔
    ∃ slot, last.table.find? id = some slot ∧ slot.state ≠ .cancelled
  listed : ∀ info, info ∈ last.table.snapshot ↔
    ∃ slot, last.table.find? info.id = some slot ∧ slot.info = info
  sorted : (last.table.snapshot.map (·.id)).Pairwise (· < ·)
  aged : ((earlier ++ later).map (·.broker.now)).Pairwise Timestamp.NotAfter →
    (last.table.snapshot.map (·.createdAt)).Pairwise Timestamp.NotAfter

variable {config : Config} {origin : Timestamp} {world : World} {thrownAway : List TransactionId}
  {middle last : Broker World Task} {entries earlier later : List (Entry World Task)}

theorem Custody.opened_range
    (custody : Custody service (.fresh config origin world thrownAway) entries last) :
    (opened entries).map (·.id) = List.range' 1 (opened entries).length := custody.opened_ids

theorem Custody.sorted
    (custody : Custody service (.fresh config origin world thrownAway) entries last) :
    last.table.ids.Pairwise (· < ·) := by
  -- At first there is no slot, so those of the table were opened, in ascending order.
  have among := custody.kept_order.map Slot.id
  rw [Table.ids_fixed] at among
  refine List.Pairwise.sublist among ?_
  have given : ([] ++ opened entries).map Slot.id = List.range' 1 (opened entries).length :=
    custody.opened_range
  exact given ▸ List.pairwise_lt_range'

theorem wellKept_of_custody
    (first : Custody service (.fresh config origin world thrownAway) earlier middle)
    (rest : Custody service middle later last) : WellKept service earlier middle later last := by
  have custody := first.append rest
  have order := custody.sorted
  have unshared : last.table.ids.Nodup := order.imp Nat.ne_of_lt
  have begun := first.stocked (.fresh config origin world thrownAway)
  have stocked := rest.stocked begun
  exact {
    numbered := fun id live => stocked.numbered_of_live live
    allots := by
      intro entry _ operation caller start
      rw [Entry.events, Broker.allots_perform, start]
      rfl
    ascending := by
      rw [allotted_eq, custody.opened_range]
      exact List.pairwise_lt_range'
    fits := by
      intro few
      rw [allotted_eq, List.length_map] at few
      have next : 1 + (opened (earlier ++ later)).length < UInt64.size := by
        rw [Nat.add_comm]
        exact Nat.add_lt_of_lt_sub few
      exact custody.counted ▸ next
    gone := by
      intro id given missing
      rw [allotted_eq, first.opened_range, List.mem_range'_1] at given
      have count : middle.table.nextId = 1 + _ := first.counted
      exact rest.gone (count ▸ given.2) missing
    born := fun entry _ id slot missing found =>
      Broker.born_perform service entry.deed missing found
    lives := by
      intro id slot next found there
      have live := (Table.isLive_iff ..).mp (Table.isLive_of_find? found)
      exact rest.becomes (begun.numbered_of_live live).2 found there
    backed := by
      intro id slot found
      obtain ⟨run, there, kind⟩ := begun.backed_of_find? found
      exact ⟨run, there, kind, rest.carries there⟩
    channel := fun entry _ id run found => Broker.run?_perform service entry.deed found
    frame := fun entry _ id apart => Broker.frame_perform service apart
    granted := last.table.access_isOk_iff
    listed := Table.mem_snapshot_iff unshared
    sorted := by
      have ids : last.table.snapshot.map (·.id) = last.table.ids := by
        simp [Table.snapshot, Table.ids, Slot.info]
      rwa [ids]
    aged := by
      intro monotone
      have dates :
          last.table.snapshot.map (·.createdAt) = last.table.fixed.map (·.createdAt) := by
        simp [Table.snapshot, Table.fixed, Slot.info, Slot.fixed]
      have among := (custody.kept_order.map Slot.createdAt).trans custody.opened_dates
      rw [dates]
      exact monotone.sublist among }

def waiting : Broker Catalogue Simulated.Phase :=
  { Broker.fresh {} ⟨0, 0⟩ {} [] with
    calls := [⟨.initiate .listInstances, .awaiting⟩, ⟨.initiate .listInstances, .abandoned⟩,
      ⟨.initiate .listInstances, .awaiting⟩] }

theorem wellKept_waiting : ∃ earlier middle later last,
    Custody (Simulated.Plan.service {}) (.fresh {} ⟨0, 0⟩ {} []) earlier middle ∧
    Custody (Simulated.Plan.service {}) middle later last ∧
    earlier.map (·.deed) = [.handle (.start .listInstances 0), .sweep .zero 0,
      .handle (.start .listInstances 1), .handle (.start .listInstances 2),
      .handle (.getResult 3 7)] ∧
    middle.table.snapshot.map (fun info => (info.id, info.state)) = [(3, .valueReady)] ∧
    later.map (·.deed) = [.handle (.cancel 3), .handle (.start .listInstances 7)] ∧
    WellKept (Simulated.Plan.service {}) earlier middle later last := by
  have surrounded : Custody (Simulated.Plan.service {}) (.fresh {} ⟨0, 0⟩ {} []) [] waiting :=
    Custody.begun.surrounded (.of_same rfl rfl)
  have kept : ∃ earlier middle,
      Custody (Simulated.Plan.service {}) (.fresh {} ⟨0, 0⟩ {} []) earlier middle ∧
      earlier.map (·.deed) = [.handle (.start .listInstances 0), .sweep .zero 0,
        .handle (.start .listInstances 1), .handle (.start .listInstances 2),
        .handle (.getResult 3 7)] ∧
      middle.table.snapshot.map (fun info => (info.id, info.state)) = [(3, .valueReady)] :=
    ⟨_, _, ((((surrounded.did _).did _).did _).did _).did _, rfl, rfl⟩
  obtain ⟨earlier, middle, first, deeds, state⟩ := kept
  have start : Custody (Simulated.Plan.service {}) middle [] middle := .begun
  have rest := (start.did (.handle (.cancel 3))).did (.handle (.start .listInstances 7))
  exact ⟨_, _, _, _, first, rest, deeds, state, rfl, wellKept_of_custody first rest⟩

/-- What the dispatcher did in the course of a run, by a clock that never goes back. -/
structure Ledger (service : Service World Task) (start : Broker World Task)
    (moments : List (Moment World Task)) (last : Broker World Task)
    (entries : List (Entry World Task)) : Prop where
  custody : Custody service start entries last
  handled : entries.filterMap (·.deed.handled?) = handledIn (history moments)
  monotone : (entries.map (·.broker.now)).Pairwise Timestamp.NotAfter
  past : ∀ entry ∈ entries, entry.broker.origin = last.origin ∧
    entry.broker.clock ≤ last.clock

namespace Ledger

variable {start broker after : Broker World Task} {moments : List (Moment World Task)}
  {entries : List (Entry World Task)} {turn : Turn World} {events : List Event}

theorem past_step (ledger : Ledger service start moments broker entries)
    (taken : broker.turn? service turn = some (after, events)) :
    ∀ entry ∈ entries, entry.broker.origin = after.origin ∧
      entry.broker.clock ≤ after.clock := by
  intro entry among
  obtain ⟨same, before⟩ := ledger.past entry among
  have origin := (Broker.settings_step taken).2.2.1
  exact ⟨same.trans origin.symm, Nat.le_trans before (Broker.clock_step taken)⟩

theorem surrounded (ledger : Ledger service start moments broker entries)
    (taken : broker.turn? service turn = some (after, events)) (surrounds : broker.Surrounds after)
    (quiet : handledIn events = []) :
    Ledger service start (moments ++ [⟨broker, turn, events⟩]) after entries where
  custody := ledger.custody.surrounded surrounds
  handled := by
    rw [history_append, history_singleton, handledIn_append, quiet, List.append_nil]
    exact ledger.handled
  monotone := ledger.monotone
  past := ledger.past_step taken

theorem did (ledger : Ledger service start moments broker entries)
    (taken : broker.turn? service turn = some (after, events)) {queue : List Action} {deed : Deed}
    (result : after = ({ broker with queue }.perform service deed).1)
    (handled : handledIn events = deed.handled?.toList) :
    Ledger service start (moments ++ [⟨broker, turn, events⟩]) after
      (entries ++ [⟨{ broker with queue }, deed⟩]) where
  custody := by
    have reached : Custody service start entries { broker with queue } :=
      ledger.custody.surrounded (.of_same rfl rfl)
    exact result ▸ reached.did deed
  handled := by
    rw [history_append, history_singleton, handledIn_append, ← ledger.handled, handled,
      List.filterMap_append]
    cases done : deed.handled? <;> simp [done]
  monotone := by
    rw [List.map_append, List.pairwise_append]
    refine ⟨ledger.monotone, List.pairwise_singleton .., ?_⟩
    intro date among now present
    obtain ⟨entry, before, rfl⟩ := List.mem_map.mp among
    cases List.mem_singleton.mp present
    obtain ⟨same, early⟩ := ledger.past entry before
    simp only [Broker.now, same]
    exact Timestamp.notAfter_after _ early
  past := by
    intro entry among
    rcases List.mem_append.mp among with old | new
    · exact ledger.past_step taken entry old
    · cases List.mem_singleton.mp new
      have clock := Broker.clock_step taken
      exact ⟨(Broker.settings_step taken).2.2.1.symm, clock⟩

end Ledger

theorem Trace.ledger {start last : Broker World Task} {moments : List (Moment World Task)}
    (trace : Trace service start moments last) :
    ∃ entries, Ledger service start moments last entries := by
  induction trace with
  | nil => exact ⟨[], .begun, rfl, .nil, by simp⟩
  | snoc earlier taken ih =>
    obtain ⟨entries, ledger⟩ := ih
    rcases Broker.deed_step taken with ⟨surrounds, quiet⟩ | ⟨queue, deed, result, handled⟩
    · exact ⟨entries, ledger.surrounded taken surrounds quiet⟩
    · exact ⟨_, ledger.did taken result handled⟩

end InstanceBroker
