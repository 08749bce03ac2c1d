import InstanceBroker.Proofs.Isolation.Hidden
import InstanceBroker.Proofs.Withdrawal.Fading

namespace InstanceBroker

variable {World Task : Type}

def skip (gone caller : Nat) : Nat := if caller < gone then caller else caller - 1

section Skip

variable {gone caller other : Nat}

theorem skip_inj (apart : caller ≠ gone) (apart' : other ≠ gone) :
    skip gone caller = skip gone other ↔ caller = other := by
  simp only [skip]
  split <;> split <;> omega

theorem exists_skip (gone place : Nat) :
    ∃ caller, caller ≠ gone ∧ skip gone caller = place := by
  by_cases before : place < gone
  · exact ⟨place, Nat.ne_of_lt before, if_pos before⟩
  · refine ⟨place + 1, by omega, ?_⟩
    rw [skip, if_neg (by omega)]
    rfl

theorem skip_of_lt (later : gone < caller) : skip gone caller = caller - 1 :=
  if_neg (Nat.not_lt_of_gt later)

theorem range_skip {count : Nat} (inside : gone ≤ count) :
    ((List.range (count + 1)).filter (· ≠ gone)).map (skip gone) = List.range count := by
  induction inside with
  | refl =>
    have kept : (List.range gone).filter (· ≠ gone) = List.range gone :=
      List.filter_eq_self.mpr fun caller among =>
        decide_eq_true (Nat.ne_of_lt (List.mem_range.mp among))
    rw [List.range_succ, List.filter_append, kept, List.filter_cons_of_neg (by simp),
      List.filter_nil, List.append_nil]
    refine (List.map_congr_left fun caller among => ?_).trans (List.map_id _)
    exact if_pos (List.mem_range.mp among)
  | @step count inside ih =>
    have last : count + 1 ≠ gone := Nat.ne_of_gt (Nat.lt_succ_of_le inside)
    have place : skip gone (count + 1) = count := skip_of_lt (Nat.lt_succ_of_le inside)
    rw [List.range_succ, List.filter_append, List.map_append, ih,
      List.filter_cons_of_pos (by simpa), List.range_succ]
    simp [place]

theorem getElem?_eraseIdx_skip {Item : Type} (items : List Item) (apart : other ≠ gone) :
    (items.eraseIdx gone)[skip gone other]? = items[other]? := by
  rw [List.getElem?_eraseIdx, skip]
  by_cases before : other < gone
  · rw [if_pos before, if_pos before]
  · have beyond : ¬ other - 1 < gone := by omega
    have place : other - 1 + 1 = other := by omega
    rw [if_neg before, if_neg beyond, place]

end Skip

def remaining (gone : CallId) (queue : List Action) : List Action :=
  (queue.filter (·.caller? ≠ some gone)).map (·.renamed (skip gone))

section Remaining

variable {gone : CallId} {action : Action} {queue : List Action}

theorem remaining_own (own : action.caller? = some gone) :
    remaining gone (action :: queue) = remaining gone queue := by
  rw [remaining, List.filter_cons_of_neg (by simp [own])]
  rfl

theorem remaining_other (other : action.caller? ≠ some gone) :
    remaining gone (action :: queue) = action.renamed (skip gone) :: remaining gone queue := by
  rw [remaining, List.filter_cons_of_pos (by simp [other])]
  rfl

theorem remaining_append (first later : List Action) :
    remaining gone (first ++ later) = remaining gone first ++ remaining gone later := by
  simp [remaining]

theorem remaining_of_earlier
    (earlier : ∀ action ∈ queue, ∀ caller, action.caller? = some caller → caller < gone) :
    remaining gone queue = queue := by
  have others : queue.filter (·.caller? ≠ some gone) = queue :=
    List.filter_eq_self.mpr fun action queued => by
      simpa using fun own => Nat.lt_irrefl gone (earlier action queued gone own)
  rw [remaining, others]
  refine (List.map_congr_left fun action queued => ?_).trans (List.map_id queue)
  have before := earlier action queued
  cases action with
  | start _ caller | getResult _ caller | inspect caller =>
    have place : skip gone caller = caller := if_pos (before caller rfl)
    simp only [Action.renamed, place, id_eq]
  | cancel | complete => rfl

theorem remaining_length_le (gone : CallId) (queue : List Action) :
    (remaining gone queue).length ≤ queue.length := by
  rw [remaining, List.length_map]
  exact List.length_filter_le ..

end Remaining

section Related

variable {First Second First' Second' : Type} {rel : First → Second → Prop}
  {rel' : First' → Second' → Prop} {first : Option First} {second : Option Second}

theorem exists_of_rel (related : Option.Rel rel first second) {item : First}
    (found : first = some item) : ∃ item', second = some item' ∧ rel item item' := by
  subst found
  cases related with
  | some related => exact ⟨_, rfl, related⟩

theorem exists_of_rel' (related : Option.Rel rel first second) {item' : Second}
    (found : second = some item') : ∃ item, first = some item ∧ rel item item' := by
  subst found
  cases related with
  | some related => exact ⟨_, rfl, related⟩

theorem none_of_rel (related : Option.Rel rel first second) (missing : first = none) :
    second = none := by
  subst missing
  cases related
  rfl

theorem rel_map (related : Option.Rel rel first second) {change : First → First'}
    {change' : Second → Second'}
    (kept : ∀ item item', rel item item' → rel' (change item) (change' item')) :
    Option.Rel rel' (first.map change) (second.map change') := by
  cases related with
  | none => exact .none
  | some related => exact .some (kept _ _ related)

theorem rel_snoc_skip {items : List First} {items' : List Second} {gone other : Nat}
    (others : ∀ other, other ≠ gone → Option.Rel rel items[other]? items'[skip gone other]?)
    (count : items.length = items'.length + 1) (inside : gone < items.length) {item : First}
    {item' : Second} (related : rel item item') (apart : other ≠ gone) :
    Option.Rel rel (items ++ [item])[other]? (items' ++ [item'])[skip gone other]? := by
  rcases Nat.lt_trichotomy other items.length with old | rfl | beyond
  · have old' : skip gone other < items'.length := by
      simp only [skip]
      split <;> omega
    rw [List.getElem?_append_left old, List.getElem?_append_left old']
    exact others other apart
  · rw [skip_of_lt inside, count, Nat.add_sub_cancel, ← count, List.getElem?_concat_length,
      List.getElem?_concat_length]
    exact .some related
  · have place : skip gone other = other - 1 := skip_of_lt (Nat.lt_trans inside beyond)
    rw [List.getElem?_eq_none (by simpa using Nat.succ_le_of_lt beyond),
      List.getElem?_eq_none (by simp; omega)]
    exact .none

end Related

namespace Broker

variable {broker bare : Broker World Task} {caller : CallId} {id : TransactionId}

/-- The bare broker is the broker without the call, which asks for the result of the transaction. -/
structure Without (caller : CallId) (id : TransactionId) (broker bare : Broker World Task) :
    Prop where
  frame : ∃ queue table calls, bare = { broker with queue, table, calls }
  queue : bare.queue = remaining caller broker.queue
  table : broker.table.Fades id bare.table
  others : ∀ other, other ≠ caller →
    Option.Rel (Call.Fades id) broker.calls[other]? bare.calls[skip caller other]?
  count : broker.calls.length = bare.calls.length + 1
  inside : caller < broker.calls.length

namespace Without

section Parts

theorem run?_eq (without : broker.Without caller id bare) (other : TransactionId) :
    bare.run? other = broker.run? other := by
  obtain ⟨⟨queue, table, calls, rfl⟩, _⟩ := without
  exact broker.run?_congr rfl other

theorem isCancelled_eq (without : broker.Without caller id bare) (other : TransactionId) :
    bare.isCancelled other = broker.isCancelled other := by
  have same := without.run?_eq other
  obtain ⟨⟨queue, table, calls, rfl⟩, _⟩ := without
  simp only [isCancelled, same]

theorem capacity_eq (without : broker.Without caller id bare) :
    bare.capacity = broker.capacity := by
  obtain ⟨⟨queue, table, calls, rfl⟩, _⟩ := without
  rfl

theorem any_eq (without : broker.Without caller id bare) {holds : Call → Bool}
    (same : ∀ call call' : Call, call.Fades id call' → holds call' = holds call) :
    broker.calls.any holds =
      (bare.calls.any holds || (broker.calls[caller]?).any holds) := by
  rw [Bool.eq_iff_iff, Bool.or_eq_true, List.any_eq_true, List.any_eq_true,
    Option.any_eq_true]
  constructor
  · rintro ⟨call, among, held⟩
    obtain ⟨other, there⟩ := List.mem_iff_getElem?.mp among
    by_cases equal : other = caller
    · subst equal
      exact .inr ⟨call, there, held⟩
    · obtain ⟨call', there', fades⟩ := exists_of_rel (without.others other equal) there
      exact .inl ⟨call', List.mem_of_getElem? there', (same _ _ fades).trans held⟩
  · rintro (⟨call', among, held⟩ | ⟨call, there, held⟩)
    · obtain ⟨place, there'⟩ := List.mem_iff_getElem?.mp among
      obtain ⟨other, apart, rfl⟩ := exists_skip caller place
      obtain ⟨call, there, fades⟩ := exists_of_rel' (without.others other apart) there'
      exact ⟨call, List.mem_of_getElem? there, (same _ _ fades).symm.trans held⟩
    · exact ⟨call, List.mem_of_getElem? there, held⟩

theorem hasSenders_eq (without : broker.Without caller id bare) :
    broker.hasSenders = (bare.hasSenders || (broker.calls[caller]?).any (·.isPending)) := by
  have pending : broker.calls.any (·.isPending) = _ :=
    without.any_eq fun _ _ fades => fades.isPending_eq
  obtain ⟨⟨queue, table, calls, rfl⟩, _⟩ := without
  simp only [hasSenders, pending, Bool.or_assoc]

theorem isWanted_eq (without : broker.Without caller id bare) (other : TransactionId) :
    broker.isWanted other =
      (bare.isWanted other || (broker.calls[caller]?).any (·.holds other)) := by
  have held : broker.calls.any (·.holds other) = _ :=
    without.any_eq fun _ _ fades => fades.holds_eq other
  simp only [isWanted, held, without.table.isLive_eq, Bool.or_assoc]

theorem hasRoom_of_hasRoom (without : broker.Without caller id bare)
    (room : broker.hasRoom = true) : bare.hasRoom = true := by
  have fewer : bare.queue.length ≤ broker.queue.length :=
    without.queue ▸ remaining_length_le caller broker.queue
  obtain ⟨⟨queue, table, calls, rfl⟩, _⟩ := without
  simp only [hasRoom, decide_eq_true_eq] at room fewer ⊢
  exact Nat.lt_of_le_of_lt fewer room

end Parts

section Changes

variable {other : CallId}

theorem withQueue (without : broker.Without caller id bare) (queue : List Action) :
    { broker with queue }.Without caller id { bare with queue := remaining caller queue } := by
  obtain ⟨⟨_, table, calls, rfl⟩, _, fades, others, count, inside⟩ := without
  exact ⟨⟨_, _, _, rfl⟩, rfl, fades, others, count, inside⟩

theorem withTable (without : broker.Without caller id bare) {table table' : Table}
    (fades : table.Fades id table') :
    { broker with table }.Without caller id { bare with table := table' } := by
  obtain ⟨⟨queue, _, calls, rfl⟩, queued, _, others, count, inside⟩ := without
  exact ⟨⟨_, _, _, rfl⟩, queued, fades, others, count, inside⟩

theorem withWorld (without : broker.Without caller id bare) (world : World) :
    { broker with world }.Without caller id { bare with world } := by
  obtain ⟨⟨queue, table, calls, rfl⟩, queued, fades, others, count, inside⟩ := without
  exact ⟨⟨_, _, _, rfl⟩, queued, fades, others, count, inside⟩

theorem withDispatcher (without : broker.Without caller id bare) (dispatcher : Dispatcher) :
    { broker with dispatcher }.Without caller id { bare with dispatcher } := by
  obtain ⟨⟨queue, table, calls, rfl⟩, queued, fades, others, count, inside⟩ := without
  exact ⟨⟨_, _, _, rfl⟩, queued, fades, others, count, inside⟩

theorem withRuns (without : broker.Without caller id bare) (runs : List (Run Task)) :
    { broker with runs }.Without caller id { bare with runs } := by
  obtain ⟨⟨queue, table, calls, rfl⟩, queued, fades, others, count, inside⟩ := without
  exact ⟨⟨_, _, _, rfl⟩, queued, fades, others, count, inside⟩

theorem mapRun (without : broker.Without caller id bare) (transaction : TransactionId)
    (change : Run Task → Run Task) :
    (broker.mapRun transaction change).Without caller id (bare.mapRun transaction change) := by
  cases transaction with
  | zero => exact without
  | succ n =>
    have runs : bare.runs = broker.runs := by
      obtain ⟨⟨queue, table, calls, rfl⟩, _⟩ := without
      rfl
    simp only [Broker.mapRun, runs]
    exact without.withRuns _

theorem signal (without : broker.Without caller id bare) (transaction : TransactionId) :
    (broker.signal transaction).Without caller id (bare.signal transaction) :=
  without.mapRun transaction _

theorem foldl_signal (without : broker.Without caller id bare) (ids : List TransactionId) :
    (ids.foldl Broker.signal broker).Without caller id (ids.foldl Broker.signal bare) := by
  induction ids generalizing broker bare with
  | nil => exact without
  | cons first ids ih => exact ih (without.signal first)

theorem discard (without : broker.Without caller id bare) (transaction : TransactionId) :
    (broker.discard transaction).Without caller id (bare.discard transaction) :=
  (without.signal transaction).withTable (without.table.erase transaction)

theorem foldl_discard (without : broker.Without caller id bare) (ids : List TransactionId) :
    (ids.foldl Broker.discard broker).Without caller id (ids.foldl Broker.discard bare) := by
  induction ids generalizing broker bare with
  | nil => exact without
  | cons first ids ih => exact ih (without.discard first)

theorem setPhase (without : broker.Without caller id bare) (apart : other ≠ caller)
    {phase phase' : Call.Phase} (fades : phase.Fades id phase') :
    (broker.setPhase other phase).Without caller id (bare.setPhase (skip caller other) phase') := by
  refine ⟨?frame, without.queue, without.table, ?others, ?count, ?inside⟩
  case frame =>
    obtain ⟨⟨queue, table, calls, rfl⟩, _⟩ := without
    exact ⟨_, _, _, rfl⟩
  case others =>
    intro another apart'
    simp only [calls_setPhase, skip_inj apart' apart]
    split
    · subst_vars
      exact rel_map (without.others another apart') fun call call' same => ⟨same.request, fades⟩
    · exact without.others another apart'
  case count => simpa [Broker.setPhase] using without.count
  case inside => simpa [Broker.setPhase] using without.inside

theorem setPhase_self (without : broker.Without caller id bare) (phase : Call.Phase) :
    (broker.setPhase caller phase).Without caller id bare := by
  refine ⟨?frame, without.queue, without.table, ?others, ?count, ?inside⟩
  case frame =>
    obtain ⟨⟨queue, table, calls, rfl⟩, _⟩ := without
    exact ⟨_, _, _, rfl⟩
  case others =>
    intro other apart
    simpa only [calls_setPhase, if_neg apart] using without.others other apart
  case count => simpa [Broker.setPhase] using without.count
  case inside => simpa [Broker.setPhase] using without.inside

theorem tell (without : broker.Without caller id bare) (apart : other ≠ caller)
    {reply reply' : DispatcherReply} (fades : reply.Fades id reply') :
    (broker.tell other reply).1.Without caller id (bare.tell (skip caller other) reply').1 ∧
      (bare.tell (skip caller other) reply').2 = (broker.tell other reply).2 := by
  obtain ⟨request, waits, told⟩ | ⟨gone, told⟩ := broker.tell_cases other reply
  · obtain ⟨⟨request', phase'⟩, waits', same⟩ :=
      exists_of_rel (without.others other apart) waits
    have awaiting : phase' = .awaiting := by
      obtain ⟨_, fades⟩ := same
      cases fades
      rfl
    subst awaiting
    have told' : bare.tell (skip caller other) reply' =
        (bare.setPhase (skip caller other) (.told reply'), true) := by
      simp only [Broker.tell, waits']
    rw [told, told']
    exact ⟨without.setPhase apart (.told fades), rfl⟩
  · obtain ⟨_, waits', _⟩ | ⟨_, told'⟩ := bare.tell_cases (skip caller other) reply'
    · obtain ⟨⟨request, phase⟩, waits, same⟩ :=
        exists_of_rel' (without.others other apart) waits'
      obtain ⟨_, fades⟩ := same
      cases fades
      exact absurd rfl (gone _ waits)
    · rw [told, told']
      exact ⟨without, rfl⟩

theorem opening (without : broker.Without caller id bare) (service : Service World Task)
    (operation : Operation) :
    (broker.opening service operation).Without caller id (bare.opening service operation) := by
  have next := without.table.nextId_eq
  obtain ⟨⟨queue, table, calls, rfl⟩, queued, fades, others, count, inside⟩ := without
  simp only at next
  simp only [Broker.opening, next]
  exact ⟨⟨_, _, _, rfl⟩, queued, fades.allocate .., others, count, inside⟩

end Changes

end Without

end Broker

end InstanceBroker
