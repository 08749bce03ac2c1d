import InstanceBroker.Proofs.Step.Run

namespace InstanceBroker.Broker

variable {World Task : Type} {service : Service World Task} {broker after : Broker World Task}

inductive SlotStep (id : TransactionId) (slot : Slot) :
    Turn World → List Event → Option Slot → Prop
  | kept {turn : Turn World} {events : List Event} : SlotStep id slot turn events (some slot)
  | accessed {caller : CallId} (usable : slot.state ≠ .cancelled) :
      SlotStep id slot (.move .dispatcher) [.handled (.getResult id caller)]
        (some { slot with state := .valueReady })
  | cancelled : SlotStep id slot (.move .dispatcher) [.handled (.cancel id), .cancelled id]
      (some { slot with state := .cancelled })
  | completed : SlotStep id slot (.move .dispatcher) [.handled (.complete id), .completed id] none
  | swept {events : List Event} (event : .swept id ∈ events) :
      SlotStep id slot (.move .dispatcher) events none
  | stopped {ids : List TransactionId} (among : id ∈ ids) :
      SlotStep id slot (.move .dispatcher) [.stopped ids] none

theorem Handles.slot_step {action : Action} {events : List Event} {id : TransactionId} {slot : Slot}
    (handles : Handles service broker action after events)
    (found : broker.table.find? id = some slot) (old : id ≠ broker.table.nextId) :
    SlotStep id slot (.move .dispatcher : Turn World) (.handled action :: events)
      (after.table.find? id) := by
  cases handles with
  | @opened operation =>
    have same : (broker.opening service operation).table.find? id = some slot := by
      rw [opening, Table.find?_allocate, found]; rfl
    exact same ▸ .kept
  | @orphaned operation =>
    have same : ((broker.opening service operation).discard broker.table.nextId).table.find? id =
        some slot := by
      rw [discard, Table.find?_erase, if_neg old, opening, Table.find?_allocate, found]; rfl
    exact same ▸ .kept
  | @granted transaction caller there live usable =>
    rw [tell_frame, Table.find?_setState]
    by_cases equal : id = transaction
    · subst equal
      have same : there = slot := Option.some.inj (live.symm.trans found)
      subst same
      rw [if_pos rfl, live]
      exact .accessed usable
    · rw [if_neg equal, found]
      exact .kept
  | refused | inspected =>
    rw [tell_frame, found]
    exact .kept
  | @cancelled transaction live =>
    simp only [Table.cancel, Table.find?_setState]
    by_cases equal : id = transaction
    · subst equal
      rw [if_pos rfl, found]
      exact .cancelled
    · rw [if_neg equal, found]
      exact .kept
  | @completed transaction live =>
    simp only [Table.find?_erase]
    by_cases equal : id = transaction
    · subst equal
      rw [if_pos rfl]
      exact .completed
    · rw [if_neg equal, found]
      exact .kept
  | cancelIgnored | completeIgnored =>
    rw [found]
    exact .kept

theorem Handles.released_slot {events : List Event} {id : TransactionId}
    (handles : Handles service broker (.complete id) after events) :
    after.table.find? id = none := by
  cases handles with
  | completed => rw [Table.find?_erase, if_pos rfl]
  | completeIgnored gone =>
    rw [Table.isLive] at gone
    exact Option.not_isSome_iff_eq_none.mp (by rw [gone]; exact Bool.false_ne_true)

/-- Every turn treats a slot in one of these ways, unless its identifier is still to be given. -/
theorem slot_step {turn : Turn World} {events : List Event} {id : TransactionId} {slot : Slot}
    (taken : broker.turn? service turn = some (after, events))
    (found : broker.table.find? id = some slot) (old : id ≠ broker.table.nextId) :
    SlotStep id slot turn events (after.table.find? id) := by
  cases turns_of_turn? taken with
  | dispatched running dispatches =>
    cases dispatches with
    | stopped =>
      rw [stop_frame, Table.find?_clear]
      have live := Table.isLive_of_find? found
      exact .stopped ((Table.isLive_iff ..).mp live)
    | handled up head handles => exact handles.slot_step found old
    | swept =>
      simp only [sweep, foldl_discard, Table.find?_foldl_erase]
      split
      · rename_i expired; exact .swept (List.mem_map_of_mem expired)
      · rw [found]; exact .kept
  | advanced =>
    rw [(advanced_frame ..).1, found]
    exact .kept
  | progressed =>
    rw [(moved_frame ..).1, found]
    exact .kept
  | received =>
    rw [receive_frame, found]
    exact .kept
  | changed => exact found ▸ .kept

theorem Handles.slot_begun {action : Action} {events : List Event} {id : TransactionId}
    (handles : Handles service broker action after events)
    (missing : broker.table.find? id = none) :
    after.table.find? id = none ∨
      id = broker.table.nextId ∧
        ∃ slot, after.table.find? id = some slot ∧ slot.state = .pending := by
  cases handles with
  | opened | orphaned =>
    simp only [setPhase, discard, opening, Table.find?_erase, Table.find?_allocate, missing,
      Option.none_or]
    by_cases next : id = broker.table.nextId
    · simp [next]
    · simp [next]
  | granted =>
    rw [tell_frame, Table.find?_setState]
    split
    · subst_vars; rw [missing]; exact .inl rfl
    · exact .inl missing
  | refused | inspected => rw [tell_frame]; exact .inl missing
  | cancelled =>
    simp only [Table.cancel, Table.find?_setState]
    split
    · subst_vars; rw [missing]; exact .inl rfl
    · exact .inl missing
  | completed =>
    simp only [Table.find?_erase, missing, ite_self, true_or]
  | cancelIgnored | completeIgnored => exact .inl missing

theorem slot_begun {turn : Turn World} {events : List Event} {id : TransactionId}
    (taken : broker.turn? service turn = some (after, events))
    (missing : broker.table.find? id = none) :
    after.table.find? id = none ∨
      id = broker.table.nextId ∧
        ∃ slot, after.table.find? id = some slot ∧ slot.state = .pending := by
  cases turns_of_turn? taken with
  | dispatched running dispatches =>
    cases dispatches with
    | stopped =>
      rw [stop_frame]
      exact .inl (Table.find?_clear ..)
    | handled up head handles => exact handles.slot_begun missing
    | swept =>
      simp only [sweep, foldl_discard, Table.find?_foldl_erase, missing, ite_self, true_or]
  | advanced =>
    rw [(advanced_frame ..).1]
    exact .inl missing
  | progressed =>
    rw [(moved_frame ..).1]
    exact .inl missing
  | received =>
    rw [receive_frame]
    exact .inl missing
  | changed => exact .inl missing

theorem ids_foldl_erase (table : Table) (ids : List TransactionId) :
    (ids.foldl Table.erase table).ids.Sublist table.ids ∧
      (ids.foldl Table.erase table).nextId = table.nextId := by
  induction ids generalizing table with
  | nil => exact ⟨.refl _, rfl⟩
  | cons id ids ih =>
    rw [List.foldl_cons]
    refine ⟨(ih _).1.trans ?_, (ih _).2⟩
    rw [Table.ids_erase]
    exact List.filter_sublist

theorem table_step {turn : Turn World} {events : List Event}
    (taken : broker.turn? service turn = some (after, events)) :
    (after.table.nextId = broker.table.nextId ∧ after.runs.length = broker.runs.length ∧
      after.table.ids.Sublist broker.table.ids) ∨
    (after.table.nextId = broker.table.nextId + 1 ∧
      after.runs.length = broker.runs.length + 1 ∧
      after.table.ids.Sublist (broker.table.ids ++ [broker.table.nextId]) ∧
      turn = .move .dispatcher ∧ ∃ due, broker.dispatcher = .running due) := by
  have opened (broker : Broker World Task) (operation : Operation) :
      (broker.opening service operation).table.ids = broker.table.ids ++ [broker.table.nextId] ∧
      (broker.opening service operation).runs.length = broker.runs.length + 1 := by
    simp [opening]
  cases turns_of_turn? taken with
  | dispatched running dispatches =>
    cases dispatches with
    | stopped =>
      refine .inl ⟨rfl, (broker.foldl_signal_frame _).2, ?_⟩
      rw [stop_frame]
      exact List.nil_sublist _
    | @handled action queue _ later up head handles =>
      cases handles with
      | @opened operation =>
        have grown := opened { broker with queue } operation
        refine .inr ⟨rfl, grown.2, ?_, rfl, running⟩
        exact grown.1 ▸ .refl _
      | @orphaned operation =>
        have grown := opened { broker with queue } operation
        refine .inr ⟨rfl, ?_, ?_, rfl, running⟩
        · exact (signal_frame _).2.trans grown.2
        · rw [discard, Table.ids_erase, grown.1]
          exact List.filter_sublist
      | granted =>
        rw [tell_frame]
        refine .inl ⟨rfl, rfl, ?_⟩
        simp only [Table.ids_setState, List.Sublist.refl]
      | refused | inspected =>
        rw [tell_frame]
        exact .inl ⟨rfl, rfl, .refl _⟩
      | cancelled =>
        refine .inl ⟨rfl, (signal_frame _).2, ?_⟩
        simp only [Table.cancel, Table.ids_setState, List.Sublist.refl]
      | completed =>
        refine .inl ⟨rfl, rfl, ?_⟩
        rw [Table.ids_erase]
        exact List.filter_sublist
      | cancelIgnored | completeIgnored => exact .inl ⟨rfl, rfl, .refl _⟩
    | @swept ttl due =>
      have erased := ids_foldl_erase broker.table (broker.table.expired ttl broker.clock)
      simp only [sweep, foldl_discard]
      exact .inl ⟨erased.2, (broker.foldl_signal_frame _).2, erased.1⟩
  | @advanced other moving next world _ moves advances =>
    have frame := broker.advanced_frame world other next
    rw [frame.1]
    exact .inl ⟨rfl, frame.2, .refl _⟩
  | @progressed caller asking phase actions rest _ asks progresses =>
    have frame := broker.moved_frame caller phase actions rest
    rw [frame.1]
    exact .inl ⟨rfl, frame.2.1, .refl _⟩
  | received =>
    rw [receive_frame]
    exact .inl ⟨rfl, rfl, .refl _⟩
  | changed => exact .inl ⟨rfl, rfl, .refl _⟩

end InstanceBroker.Broker
