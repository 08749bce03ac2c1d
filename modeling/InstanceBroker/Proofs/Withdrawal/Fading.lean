import InstanceBroker.Proofs.Custody.Deed
import InstanceBroker.Proofs.Isolation.View

namespace InstanceBroker

inductive TransactionInfo.Fades (id : TransactionId) (info : TransactionInfo) :
    TransactionInfo → Prop
  | same : Fades id info info
  | faded (own : info.id = id) (ready : info.state = .valueReady) :
      Fades id info { info with state := .pending }

inductive DispatcherReply.Fades (id : TransactionId) : DispatcherReply → DispatcherReply → Prop
  | same {reply : DispatcherReply} : Fades id reply reply
  | listing {infos infos' : List TransactionInfo}
      (fades : List.Forall₂ (TransactionInfo.Fades id) infos infos') :
      Fades id (.listing infos) (.listing infos')

inductive Outcome.Fades (id : TransactionId) : Outcome → Outcome → Prop
  | same {outcome : Outcome} : Fades id outcome outcome
  | listing {infos infos' : List TransactionInfo}
      (fades : List.Forall₂ (TransactionInfo.Fades id) infos infos') :
      Fades id (.ok (.transactions infos)) (.ok (.transactions infos'))

inductive Response.Fades (id : TransactionId) : Response → Response → Prop
  | same {response : Response} : Fades id response response
  | listing {infos infos' : List TransactionInfo}
      (fades : List.Forall₂ (TransactionInfo.Fades id) infos infos') :
      Fades id (.answer (.transactions infos)) (.answer (.transactions infos'))

theorem Outcome.Fades.response {id : TransactionId} {outcome outcome' : Outcome}
    (fades : Outcome.Fades id outcome outcome') :
    Response.Fades id (.ofOutcome outcome) (.ofOutcome outcome') := by
  cases fades with
  | same => exact .same
  | listing fades => exact .listing fades

inductive Call.Phase.Fades (id : TransactionId) : Call.Phase → Call.Phase → Prop
  | same {phase : Call.Phase} : Fades id phase phase
  | told {reply reply' : DispatcherReply} (fades : reply.Fades id reply') :
      Fades id (.told reply) (.told reply')
  | answered {outcome outcome' : Outcome} (fades : Outcome.Fades id outcome outcome') :
      Fades id (.answered outcome) (.answered outcome')

structure Call.Fades (id : TransactionId) (call call' : Call) : Prop where
  request : call'.request = call.request
  phase : call.phase.Fades id call'.phase

section Calls

variable {id : TransactionId} {call call' : Call}

theorem Call.Fades.isPending_eq (fades : call.Fades id call') :
    call'.isPending = call.isPending := by
  obtain ⟨request, phase⟩ := call
  obtain ⟨request', phase'⟩ := call'
  obtain ⟨rfl, fades⟩ := fades
  cases fades <;> rfl

theorem Call.Fades.holds_eq (fades : call.Fades id call') (other : TransactionId) :
    call'.holds other = call.holds other := by
  obtain ⟨request, phase⟩ := call
  obtain ⟨request', phase'⟩ := call'
  obtain ⟨rfl, fades⟩ := fades
  cases fades with
  | same => rfl
  | told fades =>
    cases fades with
    | same => rfl
    | listing => cases request' <;> rfl
  | answered => cases request' <;> rfl

end Calls

namespace Table

variable {id : TransactionId} {table bare : Table}

inductive Fades (id : TransactionId) (table : Table) : Table → Prop
  | same : Fades id table table
  | faded (known : id < table.nextId)
      (ready : ∀ slot ∈ table.slots, slot.id = id → slot.state = .valueReady) :
      Fades id table (table.setState id .pending)

section SetState

variable (table)

theorem setState_eq_self {state : TransactionState}
    (already : ∀ slot ∈ table.slots, slot.id = id → slot.state = state) :
    table.setState id state = table := by
  obtain ⟨nextId, slots⟩ := table
  simp only [setState, Table.mk.injEq, true_and]
  refine (List.map_congr_left fun slot among => ?_).trans (List.map_id slots)
  split
  · rename_i own
    rw [← already slot among own]
    rfl
  · rfl

theorem setState_setState (id : TransactionId) (first second : TransactionState) :
    (table.setState id first).setState id second = table.setState id second := by
  simp only [setState, Table.mk.injEq, true_and, List.map_map]
  refine List.map_congr_left fun slot _ => ?_
  by_cases own : slot.id = id <;> simp [own]

theorem setState_comm {other : TransactionId} (apart : other ≠ id)
    (first second : TransactionState) :
    (table.setState id first).setState other second =
      (table.setState other second).setState id first := by
  simp only [setState, Table.mk.injEq, true_and, List.map_map]
  refine List.map_congr_left fun slot _ => ?_
  by_cases own : slot.id = id
  · simp [own, Ne.symm apart]
  · by_cases there : slot.id = other <;> simp [own, there, apart]

theorem mem_setState {other : TransactionId} {state : TransactionState} {slot : Slot}
    (among : slot ∈ (table.setState other state).slots) (apart : slot.id ≠ other) :
    slot ∈ table.slots := by
  obtain ⟨old, there, rfl⟩ := List.mem_map.mp among
  split at apart
  · rename_i own
    exact absurd own apart
  · rename_i own
    rwa [if_neg own]

theorem expired_setState (id : TransactionId) (state : TransactionState) (ttl : Duration)
    (now : Nat) : (table.setState id state).expired ttl now = table.expired ttl now := by
  simp only [expired, setState, List.filter_map, List.map_map]
  have aged : ((fun slot : Slot => decide (ttl.nanos ≤ (slot.age now).nanos)) ∘
      fun slot => if slot.id = id then { slot with state } else slot) =
      fun slot => decide (ttl.nanos ≤ (slot.age now).nanos) := by
    funext slot
    simp only [Function.comp]
    split <;> rfl
  rw [aged]
  refine List.map_congr_left fun slot _ => ?_
  simp only [Function.comp]
  split <;> rfl

end SetState

namespace Fades

theorem nextId_eq (fades : table.Fades id bare) : bare.nextId = table.nextId := by
  cases fades <;> rfl

theorem ids_eq (fades : table.Fades id bare) : bare.ids = table.ids := by
  cases fades with
  | same => rfl
  | faded => exact table.ids_setState id .pending

theorem isLive_eq (fades : table.Fades id bare) (other : TransactionId) :
    bare.isLive other = table.isLive other := by
  rw [Bool.eq_iff_iff, isLive_iff, isLive_iff, fades.ids_eq]

theorem expired_eq (fades : table.Fades id bare) (ttl : Duration) (now : Nat) :
    bare.expired ttl now = table.expired ttl now := by
  cases fades with
  | same => rfl
  | faded => exact table.expired_setState id .pending ttl now

theorem snapshot (fades : table.Fades id bare) :
    List.Forall₂ (TransactionInfo.Fades id) table.snapshot bare.snapshot := by
  cases fades with
  | same => exact List.forall₂_same.mpr fun _ _ => .same
  | faded known ready =>
    rw [Table.snapshot, Table.snapshot, setState, List.map_map, List.forall₂_map_left_iff,
      List.forall₂_map_right_iff]
    refine List.forall₂_same.mpr fun slot among => ?_
    by_cases own : slot.id = id
    · simp only [Function.comp, if_pos own]
      exact .faded own (ready slot among own)
    · simp only [Function.comp, if_neg own]
      exact .same

theorem setState (fades : table.Fades id bare) (other : TransactionId) (state : TransactionState) :
    (table.setState other state).Fades id (bare.setState other state) := by
  cases fades with
  | same => exact .same
  | faded known ready =>
    by_cases equal : other = id
    · subst equal
      rw [setState_setState]
      exact .same
    · rw [setState_comm table equal]
      exact .faded known fun slot among own =>
        ready slot (mem_setState table among (own ▸ Ne.symm equal)) own

theorem erase (fades : table.Fades id bare) (other : TransactionId) :
    (table.erase other).Fades id (bare.erase other) := by
  cases fades with
  | same => exact .same
  | faded known ready =>
    rw [erase_setState]
    exact .faded known fun slot among => ready slot (List.mem_filter.mp among).1

theorem clear (fades : table.Fades id bare) : table.clear.Fades id bare.clear := by
  cases fades <;> exact .same

theorem allocate (fades : table.Fades id bare) (kind : Operation.Kind) (createdAt : Timestamp)
    (now : Nat) :
    (table.allocate kind createdAt now).Fades id (bare.allocate kind createdAt now) := by
  cases fades with
  | same => exact .same
  | faded known ready =>
    have new : table.nextId ≠ id := Nat.ne_of_gt known
    have same : (table.setState id .pending).allocate kind createdAt now =
        (table.allocate kind createdAt now).setState id .pending := by
      simp [Table.allocate, Table.setState, new]
    rw [same]
    refine .faded (Nat.lt_succ_of_lt known) fun slot among own => ?_
    rcases List.mem_append.mp among with old | added
    · exact ready slot old own
    · rw [List.mem_singleton.mp added] at own
      exact absurd own new

theorem access (fades : table.Fades id bare) (other : TransactionId) :
    (∃ fault, table.access other = .error fault ∧ bare.access other = .error fault) ∨
      table.access other = .ok (table.setState other .valueReady) ∧
        bare.access other = .ok (bare.setState other .valueReady) := by
  have cases_of_access (table : Table) :
      (∃ fault, table.access other = .error fault) ∨
        table.access other = .ok (table.setState other .valueReady) := by
    unfold Table.access
    split
    · exact .inl ⟨_, rfl⟩
    · split
      · exact .inl ⟨_, rfl⟩
      · exact .inr rfl
  cases fades with
  | same =>
    rcases cases_of_access table with ⟨fault, denied⟩ | granted
    · exact .inl ⟨fault, denied, denied⟩
    · exact .inr ⟨granted, granted⟩
  | faded known ready =>
    by_cases equal : other = id
    · subst equal
      cases found : table.find? other with
      | none => exact .inl ⟨.unknownTransaction other, by simp [Table.access, found]⟩
      | some slot =>
        have own : slot.id = other := by simpa using List.find?_some found
        have state := ready slot (List.mem_of_find?_eq_some found) own
        exact .inr (by simp [Table.access, found, state])
    · cases found : table.find? other with
      | none => exact .inl ⟨.unknownTransaction other, by simp [Table.access, found, equal]⟩
      | some slot =>
        by_cases cancelled : slot.state = .cancelled
        · exact .inl ⟨.cancelled, by simp [Table.access, found, equal, cancelled]⟩
        · exact .inr (by simp [Table.access, found, equal, cancelled])

theorem granted (fades : table.Fades id bare) (unshared : table.ids.Nodup)
    (known : id < table.nextId) {slot : Slot} (live : table.find? id = some slot)
    (usable : slot.state ≠ .cancelled) :
    (table.setState id .valueReady).Fades id bare := by
  -- There is one slot of the transaction only.
  have state (other : Slot) (among : other ∈ table.slots) (own : other.id = id) :
      other.state = slot.state := by
    have found := find?_of_mem unshared among
    rw [own, live] at found
    rw [Option.some.inj found]
  have settled (ready : slot.state = .valueReady) : table.setState id .valueReady = table :=
    setState_eq_self table fun other among own => (state other among own).trans ready
  cases fades with
  | same =>
    cases pending : slot.state with
    | valueReady =>
      rw [settled pending]
      exact .same
    | cancelled => exact absurd pending usable
    | pending =>
      have back : (table.setState id .valueReady).setState id .pending = table := by
        rw [setState_setState]
        exact setState_eq_self table fun other among own => (state other among own).trans pending
      have faded : (table.setState id .valueReady).Fades id
          ((table.setState id .valueReady).setState id .pending) := by
        refine .faded known fun other among own => ?_
        obtain ⟨old, _, rfl⟩ := List.mem_map.mp among
        split at own
        · rename_i there
          rw [if_pos there]
        · rename_i elsewhere
          exact absurd own elsewhere
      rwa [back] at faded
  | faded _ ready =>
    have own : slot.id = id := by simpa using List.find?_some live
    rw [settled (ready slot (List.mem_of_find?_eq_some live) own)]
    exact .faded known ready

end Fades

end Table

end InstanceBroker
