import InstanceBroker.Proofs.WellFormed

namespace InstanceBroker

variable {World Task : Type} {service : Service World Task}

def Moment.Opens (id : TransactionId) (moment : Moment World Task) : Prop :=
  ∃ kind, .opened id kind ∈ moment.events

namespace Broker

variable {broker after : Broker World Task} {turn : Turn World} {events : List Event}
  {id : TransactionId} {slot next : Slot}

theorem handled_of_opened (taken : broker.turn? service turn = some (after, events))
    {kind : Operation.Kind} (opened : .opened id kind ∈ events) :
    ∃ operation caller, .handled (.start operation caller) ∈ events ∧
      kind = operation.kind ∧
      id = broker.table.nextId := by
  cases turns_of_turn? taken with
  | dispatched running dispatches =>
    cases dispatches with
    | stopped => simp at opened
    | handled up head handles =>
      cases handles with
      | opened | orphaned =>
        refine ⟨_, _, List.mem_cons_self, ?_⟩
        simpa [and_comm] using opened
      | _ => simp at opened
    | swept => simp at opened
  | advanced _ advances => cases advances <;> simp at opened
  | progressed _ progresses => cases progresses <;> simp at opened
  | received | changed => cases opened

theorem Handles.next_of_start {operation : Operation} {caller : CallId}
    (handles : Handles service broker (.start operation caller) after events) :
    after.table.nextId = broker.table.nextId + 1 := by
  cases handles <;> rfl

theorem missing_of_next (formed : broker.WellFormed) :
    broker.table.find? broker.table.nextId = none := by
  cases found : broker.table.find? broker.table.nextId with
  | none => rfl
  | some slot => exact absurd rfl (formed.old_of_find? found)

theorem Handles.dated {action : Action} (handles : Handles service broker action after events)
    (missing : broker.table.find? id = none) (found : after.table.find? id = some slot) :
    (∃ kind, .opened id kind ∈ events) ∧ slot.openedAt = broker.clock := by
  cases handles with
  | @opened operation =>
    have new := Table.find?_allocate broker.table operation.kind
      (broker.origin.after ⟨broker.clock⟩) broker.clock id
    rw [missing, Option.none_or] at new
    have there : (broker.opening service operation).table.find? id = some slot := found
    rw [opening, new] at there
    split at there
    · cases there
      subst_vars
      exact ⟨⟨_, List.mem_cons_self⟩, rfl⟩
    · cases there
  | @orphaned operation =>
    rw [discard, Table.find?_erase] at found
    split at found
    · cases found
    · rename_i other
      rw [opening, Table.find?_allocate, missing, if_neg other] at found
      cases found
  | granted =>
    rw [tell_frame, Table.find?_setState, missing] at found
    split at found
    · subst_vars; rw [missing] at found; cases found
    · cases found
  | refused | inspected =>
    rw [tell_frame, missing] at found
    cases found
  | cancelled =>
    rw [Table.cancel, Table.find?_setState, missing] at found
    split at found
    · subst_vars; rw [missing] at found; cases found
    · cases found
  | completed =>
    rw [Table.find?_erase, missing, ite_self] at found
    cases found
  | cancelIgnored | completeIgnored =>
    rw [missing] at found
    cases found

theorem dated_step (taken : broker.turn? service turn = some (after, events))
    (missing : broker.table.find? id = none) (found : after.table.find? id = some slot) :
    Moment.Opens id ⟨broker, turn, events⟩ ∧ slot.openedAt = broker.clock := by
  cases turns_of_turn? taken with
  | dispatched running dispatches =>
    cases dispatches with
    | stopped =>
      rw [stop_frame, Table.find?_clear] at found
      cases found
    | handled up head handles =>
      obtain ⟨⟨kind, opens⟩, dated⟩ := handles.dated missing found
      exact ⟨⟨kind, List.mem_cons_of_mem _ opens⟩, dated⟩
    | swept =>
      simp only [sweep, foldl_discard, Table.find?_foldl_erase, missing, ite_self] at found
      cases found
  | advanced =>
    rw [(advanced_frame ..).1, missing] at found
    cases found
  | progressed =>
    rw [(moved_frame ..).1, missing] at found
    cases found
  | received =>
    rw [receive_frame, missing] at found
    cases found
  | changed =>
    rw [missing] at found
    cases found

theorem openedAt_kept (formed : broker.WellFormed)
    (taken : broker.turn? service turn = some (after, events))
    (before : broker.table.find? id = some slot) (found : after.table.find? id = some next) :
    next.openedAt = slot.openedAt := by
  have step := slot_step taken before (formed.old_of_find? before)
  rw [found] at step
  cases step <;> rfl

theorem ascending_step (formed : broker.WellFormed)
    (taken : broker.turn? service turn = some (after, events))
    (ascending : broker.table.ids.Pairwise (· < ·)) : after.table.ids.Pairwise (· < ·) := by
  rcases table_step taken with ⟨_, _, fewer⟩ | ⟨_, _, fewer, _⟩
  · exact ascending.sublist fewer
  · refine List.Pairwise.sublist fewer (List.pairwise_append.mpr ⟨ascending, by simp, ?_⟩)
    intro old among new next
    cases List.mem_singleton.mp next
    rw [formed.numbered]
    exact Nat.lt_succ_of_le (formed.known old among).2

end Broker

namespace Trace

variable {start last : Broker World Task} {moments : List (Moment World Task)}
  {opening : Moment World Task} {id : TransactionId} {slot : Slot}

theorem dated (trace : Trace service start moments last) (formed : start.WellFormed)
    (among : opening ∈ moments) (opens : opening.Opens id) :
    id < last.table.nextId ∧
      ∀ slot, last.table.find? id = some slot → slot.openedAt = opening.broker.clock := by
  induction trace with
  | nil => cases among
  | @snoc moments broker after turn events earlier taken ih =>
    have formed' := earlier.formed formed
    have grown : broker.table.nextId ≤ after.table.nextId := by
      rw [formed'.numbered, (formed'.step taken).numbered]
      exact Nat.succ_le_succ (Broker.runs_grow taken)
    rcases List.mem_append.mp among with old | new
    · obtain ⟨known, dated⟩ := ih old
      refine ⟨Nat.lt_of_lt_of_le known grown, fun slot found => ?_⟩
      cases before : broker.table.find? id with
      | some earlier =>
        exact (Broker.openedAt_kept formed' taken before found).trans (dated earlier before)
      | none =>
        obtain ⟨kind, again⟩ := (Broker.dated_step taken before found).1
        obtain ⟨_, _, _, _, next⟩ := Broker.handled_of_opened taken again
        exact absurd next (Nat.ne_of_lt known)
    · cases List.mem_singleton.mp new
      obtain ⟨kind, opened⟩ := opens
      obtain ⟨_, _, handled, _, rfl⟩ := Broker.handled_of_opened taken opened
      refine ⟨?_, fun slot found =>
        (Broker.dated_step taken (Broker.missing_of_next formed') found).2⟩
      obtain ⟨_, _, _, _, _, handles⟩ := Broker.handles_of_handled taken handled
      rw [handles.next_of_start]
      exact Nat.lt_succ_self _

theorem missing_kept (trace : Trace service start moments last) (formed : start.WellFormed)
    (known : id ≤ start.runs.length) (missing : start.table.find? id = none) :
    last.table.find? id = none := by
  induction trace with
  | nil => exact missing
  | snoc earlier taken ih =>
    rcases Broker.slot_begun taken ih with still | ⟨next, _⟩
    · exact still
    · have grown := Nat.le_trans known earlier.runs_grow
      rw [next, (earlier.formed formed).numbered] at grown
      exact absurd grown (Nat.not_succ_le_self _)

variable {config : Config} {origin : Timestamp} {world : World} {thrownAway : List TransactionId}

theorem opened_of_live (trace : Trace service (.fresh config origin world thrownAway) moments last)
    (found : last.table.find? id = some slot) :
    ∃ opening ∈ moments, opening.Opens id ∧ slot.openedAt = opening.broker.clock := by
  induction trace generalizing slot with
  | nil => cases found
  | @snoc moments broker after turn events earlier taken ih =>
    cases before : broker.table.find? id with
    | some old =>
      obtain ⟨opening, among, opens, dated⟩ := ih before
      refine ⟨opening, List.mem_append_left _ among, opens, ?_⟩
      exact (Broker.openedAt_kept earlier.wellFormed taken before found).trans dated
    | none =>
      obtain ⟨opens, dated⟩ := Broker.dated_step taken before found
      exact ⟨_, List.mem_append_right _ (List.mem_singleton.mpr rfl), opens, dated⟩

theorem ascending (trace : Trace service (.fresh config origin world thrownAway) moments last) :
    last.table.ids.Pairwise (· < ·) := by
  induction trace with
  | nil => exact .nil
  | snoc earlier taken ih => exact Broker.ascending_step earlier.wellFormed taken ih

end Trace

end InstanceBroker
