import InstanceBroker.Proofs.Transition
import InstanceBroker.Proofs.Step.Slot
import Mathlib.Data.List.Nodup

namespace InstanceBroker

variable {World Task : Type} {service : Service World Task}

def TransactionState.stage : TransactionState → Nat
  | .pending => 0
  | .valueReady => 1
  | .cancelled => 2

theorem TransactionState.stage_le_cancelled (state : TransactionState) :
    state.stage ≤ stage .cancelled := by
  cases state <;> decide

theorem TransactionState.stage_le_valueReady {state : TransactionState}
    (usable : state ≠ .cancelled) : state.stage ≤ stage .valueReady := by
  cases state with
  | pending | valueReady => decide
  | cancelled => exact absurd rfl usable

/-- The slot but for its state: what stays as it is for as long as the slot lives. -/
def Slot.fixed (slot : Slot) : Slot := { slot with state := .pending }

namespace Table

def fixed (table : Table) : List Slot := table.slots.map (·.fixed)

theorem ids_fixed (table : Table) : table.fixed.map (·.id) = table.ids := by
  simp [fixed, ids, Slot.fixed]

@[simp] theorem fixed_setState (table : Table) (id : TransactionId) (state : TransactionState) :
    (table.setState id state).fixed = table.fixed := by
  simp only [fixed, setState, List.map_map]
  congr 1
  funext slot
  simp only [Function.comp]
  split <;> rfl

@[simp] theorem fixed_erase (table : Table) (id : TransactionId) :
    (table.erase id).fixed = table.fixed.filter (·.id ≠ id) := by
  simp [fixed, erase, List.filter_map, Function.comp_def, Slot.fixed]

theorem fixed_foldl_erase (table : Table) (ids : List TransactionId) :
    (ids.foldl erase table).fixed.Sublist table.fixed := by
  induction ids generalizing table with
  | nil => exact .refl _
  | cons id ids ih =>
    have first : (table.erase id).fixed.Sublist table.fixed := by
      rw [fixed_erase]
      exact List.filter_sublist
    exact (ih (table.erase id)).trans first

@[simp] theorem fixed_allocate (table : Table) (kind : Operation.Kind) (createdAt : Timestamp)
    (now : Nat) :
    (table.allocate kind createdAt now).fixed =
      table.fixed ++ [{ id := table.nextId, kind, createdAt, openedAt := now }] := by
  simp [fixed, allocate, Slot.fixed]

theorem find?_of_mem {table : Table} (unshared : table.ids.Nodup) {slot : Slot}
    (among : slot ∈ table.slots) : table.find? slot.id = some slot := by
  obtain ⟨other, found⟩ : ∃ other, table.find? slot.id = some other := by
    apply Option.isSome_iff_exists.mp
    exact (isLive_iff ..).mpr (List.mem_map_of_mem among)
  have there : other ∈ table.slots := List.mem_of_find?_eq_some found
  have number : other.id = slot.id := by simpa using List.find?_some found
  rw [found, List.inj_on_of_nodup_map unshared there among number]

theorem mem_snapshot_iff {table : Table} (unshared : table.ids.Nodup) (info : TransactionInfo) :
    info ∈ table.snapshot ↔ ∃ slot, table.find? info.id = some slot ∧ slot.info = info := by
  constructor
  · intro listed
    obtain ⟨slot, among, rfl⟩ := List.mem_map.mp listed
    exact ⟨slot, find?_of_mem unshared among, rfl⟩
  · rintro ⟨slot, found, rfl⟩
    exact List.mem_map_of_mem (List.mem_of_find?_eq_some found)

theorem access_isOk_iff (table : Table) (id : TransactionId) :
    (∃ granted, table.access id = .ok granted) ↔
      ∃ slot, table.find? id = some slot ∧ slot.state ≠ .cancelled := by
  cases found : table.find? id with
  | none => simp [access, found]
  | some slot => by_cases cancelled : slot.state = .cancelled <;> simp [access, found, cancelled]

end Table

structure Slot.Becomes (slot next : Slot) : Prop where
  onward : slot.state.stage ≤ next.state.stage
  kind : next.kind = slot.kind
  createdAt : next.createdAt = slot.createdAt

theorem Slot.Becomes.refl (slot : Slot) : slot.Becomes slot := ⟨Nat.le_refl _, rfl, rfl⟩

theorem Slot.Becomes.trans {slot middle next : Slot} (first : slot.Becomes middle)
    (second : middle.Becomes next) : slot.Becomes next where
  onward := Nat.le_trans first.onward second.onward
  kind := second.kind.trans first.kind
  createdAt := second.createdAt.trans first.createdAt

def Event.opened? : Event → Option TransactionId
  | .opened id _ => some id
  | _ => none

/-- What a dispatcher does to its table. -/
inductive Deed
  | handle (action : Action)
  | sweep (ttl : Duration) (due : Nat)
  | stop

def Deed.handled? : Deed → Option Action
  | .handle action => some action
  | .sweep _ _ | .stop => none

namespace Broker

def now (broker : Broker World Task) : Timestamp := broker.origin.after ⟨broker.clock⟩

def perform (service : Service World Task) (broker : Broker World Task) : Deed → Step World Task
  | .handle action => broker.handle service action
  | .sweep ttl due => broker.sweep ttl due
  | .stop => broker.stop

def opens? (broker : Broker World Task) : Deed → Option Slot
  | .handle (.start operation _) => some
      { id := broker.table.nextId, kind := operation.kind, createdAt := broker.now,
        openedAt := broker.clock }
  | .handle _ | .sweep _ _ | .stop => none

def Concerns (broker : Broker World Task) (deed : Deed) (id : TransactionId) : Prop :=
  match deed with
  | .handle (.start _ _) => id = broker.table.nextId
  | .handle (.getResult transaction _) => id = transaction
  | .handle (.cancel transaction) => id = transaction
  | .handle (.complete transaction) => id = transaction
  | .handle (.inspect _) => False
  | .sweep ttl _ => id ∈ broker.table.expired ttl broker.clock
  | .stop => True

variable {broker after : Broker World Task} {action : Action} {events : List Event}
  {id : TransactionId}

theorem perform_handle (service : Service World Task) (broker : Broker World Task)
    (action : Action) :
    Handles service broker action (broker.perform service (.handle action)).1
      (broker.perform service (.handle action)).2 := handles_of_handle service broker action

theorem table_sweep (ttl : Duration) (due : Nat) :
    (broker.perform service (.sweep ttl due)).1.table =
      (broker.table.expired ttl broker.clock).foldl Table.erase broker.table := by
  simp only [perform, sweep, foldl_discard]

theorem table_stop : (broker.perform service .stop).1.table = broker.table.clear := by
  rw [perform, stop_frame]

theorem opens?_cases {deed : Deed} {slot : Slot} (opens : broker.opens? deed = some slot) :
    ∃ operation caller, deed = .handle (.start operation caller) ∧
      slot = { id := broker.table.nextId, kind := operation.kind, createdAt := broker.now,
               openedAt := broker.clock } := by
  cases deed with
  | handle action =>
    cases action with
    | start operation caller =>
      cases opens
      exact ⟨operation, caller, rfl, rfl⟩
    | getResult | cancel | complete | inspect => cases opens
  | sweep | stop => cases opens

theorem fixed_opening (service : Service World Task) (broker : Broker World Task)
    (operation : Operation) (caller : CallId) :
    (broker.opening service operation).table.fixed =
      broker.table.fixed ++ (broker.opens? (.handle (.start operation caller))).toList :=
  Table.fixed_allocate ..

theorem Handles.table_step (handles : Handles service broker action after events) :
    after.table.fixed.Sublist (broker.table.fixed ++ (broker.opens? (.handle action)).toList) ∧
      after.table.nextId = broker.table.nextId + (broker.opens? (.handle action)).toList.length ∧
      after.runs.length = broker.runs.length + (broker.opens? (.handle action)).toList.length := by
  cases handles with
  | @opened operation caller =>
    refine ⟨?_, rfl, ?_⟩
    · exact fixed_opening service broker operation caller ▸ .refl _
    · simp [setPhase, opening, opens?]
  | @orphaned operation caller =>
    refine ⟨?_, rfl, ?_⟩
    · rw [discard, Table.fixed_erase, fixed_opening service broker operation caller]
      exact List.filter_sublist
    · rw [discard, (signal_frame _).2]
      simp [opening, opens?]
  | granted | refused | inspected =>
    rw [tell_frame]
    refine ⟨?_, rfl, rfl⟩
    simp [opens?]
  | cancelled =>
    refine ⟨?_, rfl, (signal_frame _).2⟩
    simp [opens?, Table.cancel]
  | completed | cancelIgnored | completeIgnored =>
    refine ⟨?_, rfl, rfl⟩
    simp [opens?]

theorem table_perform (service : Service World Task) (broker : Broker World Task) (deed : Deed) :
    (broker.perform service deed).1.table.fixed.Sublist
        (broker.table.fixed ++ (broker.opens? deed).toList) ∧
      (broker.perform service deed).1.table.nextId =
        broker.table.nextId + (broker.opens? deed).toList.length ∧
      (broker.perform service deed).1.runs.length =
        broker.runs.length + (broker.opens? deed).toList.length := by
  cases deed with
  | handle action => exact (perform_handle service broker action).table_step
  | sweep ttl due =>
    refine ⟨?_, ?_, ?_⟩
    · rw [table_sweep, opens?, Option.toList_none, List.append_nil]
      exact Table.fixed_foldl_erase ..
    · rw [table_sweep, (ids_foldl_erase ..).2]
      rfl
    · simp only [perform, sweep, foldl_discard]
      exact (broker.foldl_signal_frame _).2
  | stop =>
    refine ⟨?_, ?_, (broker.foldl_signal_frame _).2⟩
    · rw [table_stop]
      exact List.nil_sublist _
    · rw [table_stop]
      rfl

theorem Handles.allots (handles : Handles service broker action after events) :
    events.filterMap Event.opened? = (broker.opens? (.handle action)).toList.map (·.id) := by
  cases handles <;> rfl

theorem allots_perform (service : Service World Task) (broker : Broker World Task) (deed : Deed) :
    (broker.perform service deed).2.filterMap Event.opened? =
      (broker.opens? deed).toList.map (·.id) := by
  cases deed with
  | handle action => exact (perform_handle service broker action).allots
  | sweep ttl due =>
    simp [perform, sweep, opens?, List.filterMap_map, Function.comp_def, Event.opened?]
  | stop => rfl

theorem run?_perform (service : Service World Task) (deed : Deed) {run : Run Task}
    (found : broker.run? id = some run) :
    ∃ next, (broker.perform service deed).1.run? id = some next ∧
      (next = run ∨ next = { run with cancelled := true }) := by
  cases deed with
  | handle action =>
    rcases (perform_handle service broker action).run found with ⟨same, _⟩ | ⟨signalled, _⟩
    · exact ⟨run, same, .inl rfl⟩
    · exact ⟨_, signalled, .inr rfl⟩
  | sweep ttl due =>
    simp only [perform, run?_sweep, found]
    split
    · exact ⟨_, rfl, .inr rfl⟩
    · exact ⟨_, rfl, .inl rfl⟩
  | stop =>
    simp only [perform, run?_stop, found]
    split
    · exact ⟨_, rfl, .inr rfl⟩
    · exact ⟨_, rfl, .inl rfl⟩

theorem Handles.began {operation : Operation} {caller : CallId}
    (handles : Handles service broker (.start operation caller) after events) :
    ∃ run, after.run? (broker.runs.length + 1) = some run ∧ run.operation = operation := by
  have begun : (broker.opening service operation).run? (broker.runs.length + 1) =
      some (broker.opened service operation) := by rw [run?_opening, if_pos rfl]
  cases handles with
  | opened =>
    rw [run?_setPhase, begun]
    exact ⟨_, rfl, rfl⟩
  | orphaned =>
    rw [run?_discard]
    split
    · rename_i own
      rw [← own, begun]
      exact ⟨_, rfl, rfl⟩
    · exact ⟨_, begun, rfl⟩

theorem run?_opens (service : Service World Task) {deed : Deed} {slot : Slot}
    (opens : broker.opens? deed = some slot) :
    ∃ run, (broker.perform service deed).1.run? (broker.runs.length + 1) = some run ∧
      run.operation.kind = slot.kind := by
  obtain ⟨operation, caller, rfl, rfl⟩ := opens?_cases opens
  obtain ⟨run, begun, rfl⟩ := (perform_handle service broker (.start operation caller)).began
  exact ⟨run, begun, rfl⟩

theorem Handles.frame_slot (handles : Handles service broker action after events)
    (apart : ¬ broker.Concerns (.handle action) id) :
    after.table.find? id = broker.table.find? id := by
  cases handles with
  | opened | orphaned =>
    have other : id ≠ broker.table.nextId := apart
    simp [setPhase, discard, opening, Table.find?_allocate, other]
  | granted =>
    rw [tell_frame, Table.find?_setState]
    exact if_neg apart
  | cancelled =>
    rw [Table.cancel, Table.find?_setState]
    exact if_neg apart
  | completed =>
    rw [Table.find?_erase]
    exact if_neg apart
  | refused | inspected => rw [tell_frame]
  | cancelIgnored | completeIgnored => rfl

theorem frame_perform (service : Service World Task) {deed : Deed}
    (apart : ¬ broker.Concerns deed id) :
    (broker.perform service deed).1.table.find? id = broker.table.find? id := by
  cases deed with
  | handle action => exact (perform_handle service broker action).frame_slot apart
  | sweep ttl due =>
    rw [table_sweep, Table.find?_foldl_erase]
    exact if_neg apart
  | stop => exact absurd trivial apart

theorem SlotStep.becomes {slot next : Slot} {turn : Turn World}
    (step : SlotStep id slot turn events (some next)) : slot.Becomes next := by
  cases step with
  | kept => exact .refl slot
  | accessed usable => exact ⟨TransactionState.stage_le_valueReady usable, rfl, rfl⟩
  | cancelled => exact ⟨slot.state.stage_le_cancelled, rfl, rfl⟩

theorem becomes_perform (service : Service World Task) (deed : Deed) {slot next : Slot}
    (found : broker.table.find? id = some slot) (old : id ≠ broker.table.nextId)
    (there : (broker.perform service deed).1.table.find? id = some next) : slot.Becomes next := by
  cases deed with
  | handle action =>
    have step := (perform_handle service broker action).slot_step found old
    rw [there] at step
    exact step.becomes
  | sweep ttl due =>
    rw [table_sweep, Table.find?_foldl_erase, found] at there
    split at there
    · cases there
    · cases there
      exact .refl slot
  | stop =>
    rw [table_stop] at there
    cases there

theorem born_perform (service : Service World Task) (deed : Deed) {slot : Slot}
    (missing : broker.table.find? id = none)
    (there : (broker.perform service deed).1.table.find? id = some slot) :
    id = broker.table.nextId ∧ slot.state = .pending := by
  cases deed with
  | handle action =>
    rcases (perform_handle service broker action).slot_begun missing with
      gone | ⟨next, born, found, pending⟩
    · rw [gone] at there
      cases there
    · rw [found] at there
      cases there
      exact ⟨next, pending⟩
  | sweep ttl due =>
    rw [table_sweep, Table.find?_foldl_erase, missing] at there
    split at there <;> cases there
  | stop =>
    rw [table_stop] at there
    cases there

end Broker

end InstanceBroker
