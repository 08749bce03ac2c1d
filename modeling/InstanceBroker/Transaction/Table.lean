import InstanceBroker.Request

namespace InstanceBroker

structure Slot where
  id : TransactionId
  kind : Operation.Kind
  state : TransactionState := .pending
  createdAt : Timestamp
  /-- The reading of the broker's clock when the slot was opened. -/
  openedAt : Nat
deriving DecidableEq, Repr

def Slot.info (slot : Slot) : TransactionInfo :=
  { id := slot.id, kind := slot.kind, state := slot.state, createdAt := slot.createdAt }

def Slot.age (slot : Slot) (now : Nat) : Duration := ⟨now - slot.openedAt⟩

structure Table where
  nextId : TransactionId := 1
  slots : List Slot := []
deriving DecidableEq, Repr

namespace Table

def find? (table : Table) (id : TransactionId) : Option Slot :=
  table.slots.find? (·.id == id)

def isLive (table : Table) (id : TransactionId) : Bool := (table.find? id).isSome

def ids (table : Table) : List TransactionId := table.slots.map (·.id)

def allocate (table : Table) (kind : Operation.Kind) (createdAt : Timestamp) (now : Nat) : Table :=
  { nextId := table.nextId + 1
    slots := table.slots ++ [{ id := table.nextId, kind, createdAt, openedAt := now }] }

def setState (table : Table) (id : TransactionId) (state : TransactionState) : Table :=
  { table with
    slots := table.slots.map fun slot => if slot.id = id then { slot with state } else slot }

def access (table : Table) (id : TransactionId) : Except Fault Table :=
  match table.find? id with
  | none => .error (.unknownTransaction id)
  | some slot =>
    if slot.state = .cancelled then .error .cancelled else .ok (table.setState id .valueReady)

def cancel (table : Table) (id : TransactionId) : Table := table.setState id .cancelled

def erase (table : Table) (id : TransactionId) : Table :=
  { table with slots := table.slots.filter (·.id ≠ id) }

def clear (table : Table) : Table := { table with slots := [] }

def expired (table : Table) (ttl : Duration) (now : Nat) : List TransactionId :=
  (table.slots.filter fun slot => ttl.nanos ≤ (slot.age now).nanos).map (·.id)

def snapshot (table : Table) : List TransactionInfo := table.slots.map (·.info)

@[simp] theorem ids_setState (table : Table) (id : TransactionId) (state : TransactionState) :
    (table.setState id state).ids = table.ids := by
  simp only [ids, setState, List.map_map]
  congr 1
  funext slot
  simp only [Function.comp]
  split <;> rfl

@[simp] theorem ids_erase (table : Table) (id : TransactionId) :
    (table.erase id).ids = table.ids.filter (· ≠ id) := by
  simp [ids, erase, List.filter_map, Function.comp_def]

@[simp] theorem ids_allocate (table : Table) (kind : Operation.Kind) (createdAt : Timestamp)
    (now : Nat) :
    (table.allocate kind createdAt now).ids = table.ids ++ [table.nextId] := by
  simp [ids, allocate]

theorem isLive_iff (table : Table) (id : TransactionId) : table.isLive id ↔ id ∈ table.ids := by
  simp [isLive, find?, ids]

theorem isLive_of_find? {table : Table} {id : TransactionId} {slot : Slot}
    (found : table.find? id = some slot) : table.isLive id := by simp [isLive, found]

@[simp] theorem find?_setState (table : Table) (id other : TransactionId)
    (state : TransactionState) :
    (table.setState id state).find? other =
      if other = id then (table.find? id).map ({ · with state }) else table.find? other := by
  have same : (fun slot : Slot => slot.id == other) ∘
      (fun slot => if slot.id = id then { slot with state } else slot) = (·.id == other) := by
    funext slot
    simp only [Function.comp]
    split <;> rfl
  simp only [find?, setState, List.find?_map, same]
  by_cases equal : other = id
  · subst equal
    rw [if_pos rfl]
    refine Option.map_congr fun slot found => ?_
    rw [if_pos (by simpa using List.find?_some found)]
  · rw [if_neg equal]
    cases found : table.slots.find? (·.id == other) with
    | none => rfl
    | some slot =>
      have number : slot.id = other := by simpa using List.find?_some found
      simp [number, equal]

@[simp] theorem find?_erase (table : Table) (id other : TransactionId) :
    (table.erase id).find? other = if other = id then none else table.find? other := by
  simp only [find?, erase, List.find?_filter]
  split
  · subst_vars; simp
  · rename_i different
    congr 1
    funext slot
    by_cases number : slot.id = other <;> simp [number, different]

theorem find?_allocate (table : Table) (kind : Operation.Kind) (createdAt : Timestamp)
    (now : Nat) (id : TransactionId) :
    (table.allocate kind createdAt now).find? id =
      (table.find? id).or (if id = table.nextId then
        some { id := table.nextId, kind, createdAt, openedAt := now } else none) := by
  simp only [find?, allocate, List.find?_append]
  congr 1
  by_cases equal : id = table.nextId
  · simp [equal]
  · simp [equal, Ne.symm equal]

@[simp] theorem find?_clear (table : Table) (id : TransactionId) :
    table.clear.find? id = none := rfl

end Table

end InstanceBroker
