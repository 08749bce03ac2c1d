import InstanceBroker.Proofs.Custody.Deed
import InstanceBroker.Proofs.Opening
import InstanceBroker.Proofs.Release
import InstanceBroker.Proofs.Submission

namespace InstanceBroker

variable {World Task : Type} {service : Service World Task}

def starts (events : List Event) : List CallId :=
  events.filterMap fun
    | .handled (.start _ caller) => some caller
    | _ => none

def openings (events : List Event) : List TransactionId := events.filterMap (·.opened?)

@[simp] theorem starts_append (first later : List Event) :
    starts (first ++ later) = starts first ++ starts later := by simp [starts]

@[simp] theorem openings_append (first later : List Event) :
    openings (first ++ later) = openings first ++ openings later := by simp [openings]

theorem mem_starts {events : List Event} {caller : CallId} :
    caller ∈ starts events ↔ ∃ operation, .handled (.start operation caller) ∈ events := by
  simp only [starts, List.mem_filterMap]
  constructor
  · rintro ⟨event, among, found⟩
    cases event with
    | handled action =>
      cases action with
      | start operation other =>
        cases found
        exact ⟨operation, among⟩
      | _ => cases found
    | _ => cases found
  · rintro ⟨operation, among⟩
    exact ⟨_, among, rfl⟩

def Action.starter? : Action → Option CallId
  | .start _ caller => some caller
  | _ => none

theorem Action.eq_start_of_starter? {action : Action} {caller : CallId}
    (starts : action.starter? = some caller) : ∃ operation, action = .start operation caller := by
  cases action with
  | start operation other =>
    cases starts
    exact ⟨operation, rfl⟩
  | _ => cases starts

theorem starts_eq (events : List Event) :
    starts events = (handledIn events).filterMap (·.starter?) := by
  simp only [starts, handledIn, List.filterMap_filterMap]
  congr 1
  funext event
  cases event with
  | handled action => cases action <;> rfl
  | _ => rfl

def Call.returned? (call : Call) : Option TransactionId :=
  match call.request, call.phase with
  | .initiate _, .answered (.ok (.started id)) => some id
  | _, _ => none

/-- The call has the transaction, or is about to return it. -/
def Call.Owns (id : TransactionId) (call : Call) : Prop :=
  (∃ operation, call.request = .initiate operation) ∧
    (call.phase = .told (.opened id) ∨ call.phase = .answered (.ok (.started id)))

theorem Call.returned?_eq_some_iff {call : Call} {id : TransactionId} :
    call.returned? = some id ↔
      ∃ operation,
        call = { request := .initiate operation, phase := .answered (.ok (.started id)) } := by
  obtain ⟨request, phase⟩ := call
  constructor
  · intro returned
    unfold returned? at returned
    split at returned
    · rename_i operation _ asked answered
      cases asked
      cases answered
      cases returned
      exact ⟨operation, rfl⟩
    · cases returned
  · rintro ⟨operation, same⟩
    cases same
    rfl

namespace Broker

def returned? (broker : Broker World Task) (caller : CallId) : Option TransactionId :=
  broker.calls[caller]?.bind (·.returned?)

variable {broker after : Broker World Task} {turn : Turn World} {events : List Event}
  {id : TransactionId} {caller : CallId} {call : Call} {phase : Call.Phase}

theorem Handles.unstarted {action : Action}
    (handles : Handles service broker action after events) : starts events = [] := by
  cases handles <;> rfl

theorem numbers_step (taken : broker.turn? service turn = some (after, events)) :
    starts events = [] ∧ openings events = [] ∧ after.table.nextId = broker.table.nextId ∨
    ∃ caller, starts events = [caller] ∧ openings events = [broker.table.nextId] ∧
      after.table.nextId = broker.table.nextId + 1 := by
  cases turns_of_turn? taken with
  | dispatched running dispatches =>
    cases dispatches with
    | stopped =>
      rw [stop_frame]
      exact .inl ⟨rfl, rfl, rfl⟩
    | @handled action queue _ later up head handles =>
      cases handles with
      | opened | orphaned => exact .inr ⟨_, rfl, rfl, rfl⟩
      | granted | refused | inspected =>
        rw [tell_frame]
        exact .inl ⟨rfl, rfl, rfl⟩
      | cancelled | cancelIgnored | completed | completeIgnored => exact .inl ⟨rfl, rfl, rfl⟩
    | swept =>
      refine .inl ⟨?_, ?_, ?_⟩
      · simp [starts, List.filterMap_map]
      · simp [openings, List.filterMap_map, Event.opened?]
      · simp only [sweep, foldl_discard, (ids_foldl_erase ..).2]
  | advanced _ advances =>
    rw [(advanced_frame ..).1]
    cases advances <;> exact .inl ⟨rfl, rfl, rfl⟩
  | progressed _ progresses =>
    rw [(moved_frame ..).1]
    cases progresses <;> exact .inl ⟨rfl, rfl, rfl⟩
  | received =>
    rw [receive_frame]
    exact .inl ⟨rfl, rfl, rfl⟩
  | changed => exact .inl ⟨rfl, rfl, rfl⟩

theorem owns_step (formed : broker.WellFormed)
    (taken : broker.turn? service turn = some (after, events))
    (found : broker.calls[caller]? = some call)
    (step : CallStep broker after caller call turn events phase)
    (owns : ({ call with phase } : Call).Owns id) :
    call.Owns id ∨ id = broker.table.nextId ∧ starts events = [caller] := by
  obtain ⟨request, old⟩ := call
  obtain ⟨⟨operation, asked⟩, reached⟩ := owns
  cases asked
  cases step with
  | kept => exact .inl ⟨⟨operation, rfl⟩, reached⟩
  | @told action queue later reply waits up head asks replies =>
    -- The action is the start that this call asked for.
    obtain ⟨asking, there, same, _⟩ :=
      formed.asked action (head ▸ List.mem_cons_self) caller asks
    cases there.symm.trans found
    cases same
    obtain ⟨_, _, made, _, _, handles⟩ := handles_of_handled taken List.mem_cons_self
    cases made
    cases replies
    rcases reached with equal | equal
    · cases equal
      exact .inr ⟨rfl, congrArg (caller :: ·) handles.unstarted⟩
    · cases equal
  | progressed progresses =>
    left
    refine ⟨⟨operation, rfl⟩, ?_⟩
    rcases reached with equal | equal
    · subst equal
      cases progresses
    · subst equal
      cases progresses with
      | @learned _ reply _ up known =>
        cases reply <;> cases known
        exact .inl rfl
  | abandoned =>
    rcases reached with equal | equal <;> cases equal

theorem owner_step (up : broker.shutdown = false)
    (taken : broker.turn? service turn = some (after, events))
    (patient : turn = .input (.abandon caller) → broker.Settled service)
    (found : broker.calls[caller]? = some call) (owns : call.Owns id) :
    ∃ next, after.calls[caller]? = some next ∧ next.Owns id := by
  obtain ⟨phase, there, step⟩ := call_step taken found
  refine ⟨_, there, owns.1, ?_⟩
  obtain ⟨request, old⟩ := call
  obtain ⟨⟨operation, asked⟩, reached⟩ := owns
  cases asked
  cases step with
  | kept => exact reached
  | told waits =>
    cases waits
    rcases reached with equal | equal <;> cases equal
  | progressed progresses =>
    right
    rcases reached with rfl | rfl
    · cases progresses with
      | preempted down =>
        rw [up] at down
        cases down
      | learned _ known =>
        cases known
        rfl
    · cases progresses.pending
  | abandoned pending =>
    rcases reached with rfl | rfl
    · -- A call that was told could still move, so the broker was not settled.
      have blocked := patient rfl (.call caller)
      simp [fire?, advanceCall?, found, up] at blocked
    · cases pending

theorem Handles.tells_of_kept {operation : Operation}
    (handles : Handles service broker (.start operation caller) after events) {slot : Slot}
    (kept : after.table.find? broker.table.nextId = some slot) :
    ∃ request, broker.calls[caller]? = some { request, phase := .awaiting } ∧
      after.calls[caller]? = some { request, phase := .told (.opened broker.table.nextId) } := by
  cases handles with
  | @opened _ _ request waits =>
    refine ⟨request, waits, ?_⟩
    have there : (broker.opening service operation).calls[caller]? =
        some { request, phase := .awaiting } := waits
    rw [calls_setPhase, if_pos rfl, there]
    rfl
  | orphaned =>
    rw [discard, Table.find?_erase, if_pos rfl] at kept
    cases kept

theorem Handles.discards_of_gone {operation : Operation}
    (handles : Handles service broker (.start operation caller) after events)
    (gone : ∀ call, broker.calls[caller]? = some call → call.phase ≠ .awaiting) :
    events = [.opened broker.table.nextId operation.kind, .discarded broker.table.nextId] ∧
      after.table.find? broker.table.nextId = none := by
  cases handles with
  | opened waits => exact absurd rfl (gone _ waits)
  | orphaned =>
    rw [discard, Table.find?_erase, if_pos rfl]
    exact ⟨rfl, rfl⟩

theorem owned_step (formed : broker.WellFormed)
    (taken : broker.turn? service turn = some (after, events))
    (missing : broker.table.find? id = none) {slot : Slot}
    (found : after.table.find? id = some slot) :
    ∃ (caller : CallId) (call : Call), after.calls[caller]? = some call ∧ call.Owns id := by
  obtain ⟨⟨kind, opened⟩, _⟩ := dated_step taken missing found
  obtain ⟨operation, caller, handled, _, rfl⟩ := handled_of_opened taken opened
  obtain ⟨_, _, _, _, head, handles⟩ := handles_of_handled taken handled
  obtain ⟨call, there, same, _⟩ := formed.asked _ (head ▸ List.mem_cons_self) caller rfl
  obtain ⟨request, waits, told⟩ := handles.tells_of_kept found
  cases there.symm.trans waits
  refine ⟨caller, _, told, ⟨operation, ?_⟩, .inl rfl⟩
  cases request <;> cases same
  rfl

theorem idle_step (taken : broker.turn? service turn = some (after, events))
    (idle : broker.dispatcher = .ended → broker.shutdown = true ∨ broker.queue = [])
    (ended : after.dispatcher = .ended) : after.shutdown = true ∨ after.queue = [] := by
  have down := (settings_step taken).2.2.2.1
  cases turns_of_turn? taken with
  | dispatched running dispatches =>
    obtain ⟨due, running⟩ := running
    cases dispatches with
    | stopped final =>
      rw [stop_frame]
      exact final.imp_right And.left
    | handled _ _ handles =>
      rw [handles.frame] at ended
      cases running.symm.trans ended
    | swept =>
      rw [sweep_frame] at ended
      cases ended
  | advanced =>
    rw [(advanced_frame ..).1] at ended ⊢
    exact idle ended
  | @progressed _ _ phase actions reads _ asks progresses =>
    rw [(moved_frame ..).1] at ended
    have closed : broker.dispatcher.accepts = false := by
      rw [ended]
      rfl
    rcases idle ended with before | empty
    · exact .inl (down before)
    · right
      rw [queue_moved, empty]
      cases progresses with
      | cancelQueued _ accepts | queued _ accepts | released _ accepts =>
        rw [closed] at accepts
        cases accepts
      | _ => rfl
  | received =>
    rcases idle (ended_of_receive ended) with before | empty
    · exact .inl (down before)
    · right
      rw [receive_frame]
      exact empty
  | changed => exact idle ended

end Broker

/-- Initiating calls are given up only while the broker is settled. -/
def Patient (service : Service World Task) (moments : List (Moment World Task)) : Prop :=
  ∀ moment ∈ moments, ∀ (caller : CallId) (operation : Operation) (phase : Call.Phase),
    moment.broker.calls[caller]? = some { request := .initiate operation, phase } →
    moment.turn = .input (.abandon caller) → moment.broker.Settled service

namespace Trace

variable {start last : Broker World Task} {first later moments : List (Moment World Task)}
  {moment : Moment World Task} {caller : CallId} {call : Call} {id : TransactionId}

theorem missing_of_unopened (trace : Trace service start moments last)
    (formed : start.WellFormed) (unopened : last.runs.length < id) (among : moment ∈ moments) :
    moment.broker.table.find? id = none ∧ moment.broker.run? id = none := by
  obtain ⟨first, later, after, rfl, before, taken, rest⟩ := trace.split among
  have grown := Nat.le_trans (Broker.runs_grow taken) rest.runs_grow
  have beyond : moment.broker.runs.length < id := Nat.lt_of_le_of_lt grown unopened
  constructor
  · cases found : moment.broker.table.find? id with
    | none => rfl
    | some slot =>
      have live := (Table.isLive_iff ..).mp (Table.isLive_of_find? found)
      exact absurd ((before.formed formed).known id live).2 (Nat.not_le_of_lt beyond)
  · rw [← Option.not_isSome_iff_eq_none, Broker.run?_isSome_iff]
    exact fun known => absurd known.2 (Nat.not_le_of_lt beyond)

variable {config : Config} {origin : Timestamp} {world : World} {thrownAway : List TransactionId}

theorem numbers (trace : Trace service (.fresh config origin world thrownAway) moments last) :
    last.table.nextId = (starts (history moments)).length + 1 ∧
      openings (history moments) = List.range' 1 (starts (history moments)).length := by
  induction trace with
  | nil => exact ⟨rfl, rfl⟩
  | @snoc moments broker after turn events earlier taken ih =>
    rw [history_append, history_singleton, starts_append, openings_append, List.length_append]
    rcases Broker.numbers_step taken with
      ⟨none, nothing, same⟩ | ⟨caller, one, opened, next⟩
    · rw [none, nothing, same, List.append_nil]
      exact ih
    · rw [one, opened, next, ih.1, ih.2, List.length_singleton, List.range'_concat]
      exact ⟨rfl, by rw [Nat.one_mul, Nat.add_comm]⟩

theorem place_of_owns (trace : Trace service (.fresh config origin world thrownAway) moments last)
    (found : last.calls[caller]? = some call) (owns : call.Owns id) :
    ∃ place, id = place + 1 ∧ (starts (history moments))[place]? = some caller := by
  induction trace generalizing call with
  | nil => cases found
  | @snoc moments broker after turn events earlier taken ih =>
    rw [history_append, history_singleton, starts_append]
    rcases Broker.call_origin taken found with ⟨⟨request, phase⟩, there, same, step⟩ | new
    · obtain ⟨_, next⟩ := call
      cases same
      rcases Broker.owns_step earlier.wellFormed taken there step owns with before | ⟨rfl, one⟩
      · obtain ⟨place, number, placed⟩ := ih there before
        exact ⟨place, number, by rw [List.getElem?_append_left
          (List.getElem?_eq_some_iff.mp placed).1, placed]⟩
      · exact ⟨_, earlier.numbers.1, by rw [one, List.getElem?_concat_length]⟩
    · rcases owns.2 with equal | equal <;> cases new.2.2.1.symm.trans equal

theorem starts_nodup (trace : Trace service (.fresh config origin world thrownAway) moments last) :
    (starts (history moments)).Nodup := by
  have single : (carriedOut (history moments)).Nodup :=
    (List.take_sublist _ _).nodup trace.submissions_nodup
  rw [starts_eq, ← trace.actions_carriedOut, List.filterMap_map]
  refine List.pairwise_filterMap.mpr (single.imp_of_mem ?_)
  rintro ⟨first, action⟩ ⟨second, other⟩ among among' different caller asked _ asked' rfl
  obtain ⟨operation, rfl⟩ := Action.eq_start_of_starter? asked
  obtain ⟨operation', rfl⟩ := Action.eq_start_of_starter? asked'
  obtain ⟨call, found, within⟩ := trace.call_of_submitted (List.mem_of_mem_take among)
  obtain ⟨call', found', within'⟩ := trace.call_of_submitted (List.mem_of_mem_take among')
  obtain ⟨rfl, requested⟩ := Request.eq_initiate_of_actions within
  obtain ⟨rfl, requested'⟩ := Request.eq_initiate_of_actions within'
  cases found.symm.trans found'
  cases requested.symm.trans requested'
  exact different rfl

theorem owner_of_live (trace : Trace service (.fresh config origin world thrownAway) moments last)
    (up : last.shutdown = false) (patient : Patient service moments) {slot : Slot}
    (found : last.table.find? id = some slot) :
    ∃ (caller : CallId) (call : Call), last.calls[caller]? = some call ∧ call.Owns id := by
  induction trace generalizing slot with
  | nil => cases found
  | @snoc moments broker after turn events earlier taken ih =>
    have up' : broker.shutdown = false := (single taken).up up
    have patient' : Patient service moments := fun moment among =>
      patient moment (List.mem_append_left _ among)
    cases before : broker.table.find? id with
    | none => exact Broker.owned_step earlier.wellFormed taken before found
    | some old =>
      obtain ⟨caller, call, there, owns⟩ := ih up' patient' before
      have settled : turn = .input (.abandon caller) → broker.Settled service := by
        obtain ⟨request, phase⟩ := call
        obtain ⟨⟨operation, asked⟩, _⟩ := owns
        cases asked
        exact patient _ (List.mem_append_right _ (List.mem_singleton.mpr rfl)) caller operation
          phase there
      obtain ⟨next, there, owns⟩ := Broker.owner_step up' taken settled there owns
      exact ⟨caller, next, there, owns⟩

theorem idle_of_ended (trace : Trace service (.fresh config origin world thrownAway) moments last)
    (ended : last.dispatcher = .ended) : last.shutdown = true ∨ last.queue = [] := by
  refine trace.invariant (fun ended => ?_) (fun idle taken => Broker.idle_step taken idle) ended
  cases ended

theorem untaken_of_unopened
    (trace : Trace service (.fresh config origin world thrownAway) moments last)
    (unopened : last.runs.length < id) : takes id (history moments) = [] := by
  induction trace with
  | nil => rfl
  | @snoc moments broker after turn events earlier taken ih =>
    have beyond := Nat.lt_of_le_of_lt (Broker.runs_grow taken) unopened
    have absent : broker.run? id = none := by
      rw [← Option.not_isSome_iff_eq_none, Broker.run?_isSome_iff]
      exact fun known => absurd known.2 (Nat.not_le_of_lt beyond)
    have untaken := (Broker.run_begun taken earlier.wellFormed.numbered absent).1
    rw [history_append, history_singleton, takes_append, ih beyond, takes_of_untaken untaken]
    rfl

end Trace

/-- The transaction was opened for nobody: it is discarded in the same breath, and nobody ever hears
of it. -/
structure Orphaned (service : Service World Task) (moments : List (Moment World Task))
    (last : Broker World Task) (operation : Operation) (caller : CallId) (id : TransactionId) :
    Prop where
  discarded : ∃ moment ∈ moments, ∃ after,
    moment.broker.turn? service moment.turn = some (after, moment.events) ∧
    moment.events =
      [.handled (.start operation caller), .opened id operation.kind, .discarded id] ∧
    moment.broker.table.nextId = id ∧ after.table.nextId = id + 1 ∧
    after.table.find? id = none ∧ after.isSignalled id = true
  unreturned : ∀ other, last.returned? other ≠ some id
  unlisted : ∀ (other : CallId) (infos : List TransactionInfo), last.calls[other]? =
    some { request := .listTransactions, phase := .answered (.ok (.transactions infos)) } →
    ∀ info ∈ infos, info.id ≠ id
  untaken : takes id (history moments) = []
  /-- Not even a call that guesses the identifier gets anything. -/
  unread : ∀ (other : CallId) (kind : Operation.Kind) (outcome : Outcome), last.calls[other]? =
    some { request := .collect kind id, phase := .answered outcome } →
    ∃ fault, outcome = .error fault ∧ fault.isBarren id

namespace Trace

variable {first later moments : List (Moment World Task)} {moment : Moment World Task}
  {after last : Broker World Task} {caller : CallId} {id : TransactionId} {operation : Operation}
  {config : Config} {origin : Timestamp} {world : World} {thrownAway : List TransactionId}

theorem unheard_of_missing
    (trace : Trace service (.fresh config origin world thrownAway) moments last)
    (missing : ∀ moment ∈ moments, moment.broker.table.find? id = none) :
    (∀ (other : CallId) (infos : List TransactionInfo), last.calls[other]? =
      some { request := .listTransactions, phase := .answered (.ok (.transactions infos)) } →
      ∀ info ∈ infos, info.id ≠ id) ∧
    ∀ (other : CallId) (kind : Operation.Kind) (outcome : Outcome), last.calls[other]? =
      some { request := .collect kind id, phase := .answered outcome } →
      ∃ fault, outcome = .error fault ∧ fault.isBarren id := by
  constructor
  · intro other infos found
    have informed :
        ({ request := .listTransactions, phase := .answered (.ok (.transactions infos)) } :
          Call).Informed
          (fun reply => ∃ infos, reply = .listing infos ∧ ∀ info ∈ infos, info.id ≠ id)
          fun _ => True := by
      refine trace.informed (.fresh ..) (by simp) (by simp) (fun moment among => ?_)
        (fun phase there => by cases there) _ found
      refine ⟨fun _ => trivial, fun _ _ _ _ => trivial, fun queue reply _ replies => ?_⟩
      cases replies
      exact ⟨_, rfl, Table.unlisted (missing moment among)⟩
    rcases informed with ⟨_, ⟨listed, rfl, absent⟩, known⟩ | ⟨_, _, failed⟩
    · cases known
      exact absent
    · cases failed
  · intro other kind outcome found
    have informed : ({ request := .collect kind id, phase := .answered outcome } : Call).Informed
        (· = .refused (.unknownTransaction id)) Fault.IsUnheard := by
      refine trace.informed (.fresh ..) (by simp) (by simp) (fun moment among => ?_)
        (fun phase there => by cases there) _ found
      refine ⟨fun _ => .inl rfl, fun _ _ _ _ => .inr rfl, fun queue reply _ replies => ?_⟩
      rcases moment.broker.reply?_getResult id other with ⟨_, refused⟩ | ⟨slot, live, _⟩
      · exact Option.some.inj (replies.symm.trans refused)
      · cases (missing moment among).symm.trans live
    rcases informed with ⟨_, rfl, known⟩ | ⟨fault, cause, rfl⟩
    · cases known
      exact ⟨_, rfl, .inr (.inl rfl)⟩
    · exact ⟨fault, rfl, cause.imp_right .inr⟩

theorem orphaned_of_gone
    (trace : Trace service (.fresh config origin world thrownAway) (first ++ moment :: later) last)
    (handled : .handled (.start operation caller) ∈ moment.events) {request : Request}
    (found : moment.broker.calls[caller]? = some { request, phase := .abandoned }) :
    Orphaned service (first ++ moment :: later) last operation caller
      moment.broker.table.nextId := by
  obtain ⟨after, before, taken, rest⟩ := trace.split_at
  obtain ⟨others, _, made, _, _, handles⟩ := Broker.handles_of_handled taken handled
  have gone : ∀ call, moment.broker.calls[caller]? = some call → call.phase ≠ .awaiting := by
    intro call there
    cases there.symm.trans found
    nofun
  obtain ⟨rfl, missing⟩ := handles.discards_of_gone gone
  have upto := before.snoc taken
  have signalled : after.isSignalled moment.broker.table.nextId = true :=
    (upto.struck_iff _).mpr
      ⟨_, List.mem_append_right _ List.mem_cons_self, .handled handled (.discarded rfl gone)⟩
  have cancelled : after.isCancelled moment.broker.table.nextId = true :=
    Bool.or_eq_true _ _ |>.mpr (.inr signalled)
  have unopened : moment.broker.runs.length < moment.broker.table.nextId := by
    rw [before.wellFormed.numbered]
    exact Nat.lt_succ_self _
  have known : moment.broker.table.nextId ≤ after.runs.length := by
    have next := handles.next_of_start
    rw [upto.wellFormed.numbered] at next
    exact Nat.le_of_eq (Nat.succ.inj next).symm
  have absent : ∀ other ∈ first ++ moment :: later,
      other.broker.table.find? moment.broker.table.nextId = none := by
    intro other among
    rcases List.mem_append.mp among with early | among
    · exact (before.missing_of_unopened (.fresh ..) unopened early).1
    · rcases List.mem_cons.mp among with rfl | late
      · exact Broker.missing_of_next before.wellFormed
      · obtain ⟨_, _, _, _, between, _, _⟩ := rest.split late
        exact between.missing_kept upto.wellFormed known missing
  have whole : history (first ++ moment :: later) =
      history first ++ (moment.events ++ history later) := by simp [history]
  obtain ⟨unlisted, unread⟩ := trace.unheard_of_missing absent
  constructor
  case discarded =>
    exact ⟨moment, List.mem_append_right _ List.mem_cons_self, after, taken, made, rfl,
      handles.next_of_start, missing, signalled⟩
  case unreturned =>
    intro other returned
    obtain ⟨call, there, returns⟩ := Option.bind_eq_some_iff.mp returned
    obtain ⟨_, rfl⟩ := Call.returned?_eq_some_iff.mp returns
    obtain ⟨place, number, placed⟩ := trace.place_of_owns there ⟨⟨_, rfl⟩, .inr rfl⟩
    -- The place of the start in question is taken by the caller that has given up.
    rw [before.numbers.1] at number
    cases Nat.succ.inj number
    rw [whole, made, starts_append, List.getElem?_append_right (Nat.le_refl _),
      Nat.sub_self] at placed
    cases placed
    have kept := (((single taken).append rest).silent_of_closed found rfl).2
    cases there.symm.trans kept
  case unlisted => exact unlisted
  case untaken =>
    have silent := (rest.silent upto.wellFormed cancelled).2
    rw [whole, made, takes_append, takes_append, before.untaken_of_unopened unopened, silent]
    rfl
  case unread => exact unread

end Trace

structure Initiation (service : Service World Task) (moments : List (Moment World Task))
    (last : Broker World Task) : Prop where
  owned : last.shutdown = false → last.Settled service → ∀ id, last.table.isLive id = true →
    ∃ caller, last.returned? caller = some id
  numbered : openings (history moments) = List.range' 1 (starts (history moments)).length
  handled : ∀ caller id, last.returned? caller = some id → caller ∈ starts (history moments)
  unshared : ∀ caller other id, last.returned? caller = some id →
    last.returned? other = some id →
    caller = other
  /-- The calls return identifiers that grow in the order in which their starts were handled. -/
  ascending : ((starts (history moments)).filterMap last.returned?).Pairwise (· < ·)
  blocked : ∀ moment ∈ moments, ∀ (caller : CallId) (operation : Operation),
    moment.broker.calls[caller]? = some { request := .initiate operation, phase := .submitting } →
    moment.turn = .input (.abandon caller) → caller ∉ starts (history moments)
  queued : ∀ moment ∈ moments, ∀ (caller : CallId) (operation : Operation),
    moment.broker.calls[caller]? = some { request := .initiate operation, phase := .awaiting } →
    moment.turn = .input (.abandon caller) →
    .start operation caller ∈ last.queue ∨
      ∃ id, Orphaned service moments last operation caller id
  cleared : last.shutdown = false → last.Settled service →
    last.dispatcher = .idle ∨ last.dispatcher = .dropped ∨ last.queue = []

variable {config : Config} {origin : Timestamp} {world : World} {thrownAway : List TransactionId}
  {moments : List (Moment World Task)} {last : Broker World Task}

theorem initiation_of_trace
    (trace : Trace service (.fresh config origin world thrownAway) moments last)
    (patient : Patient service moments) : Initiation service moments last := by
  have returns {caller : CallId} {id : TransactionId} (returned : last.returned? caller = some id) :
      ∃ (call : Call), last.calls[caller]? = some call ∧ call.Owns id ∧
        ∃ place, id = place + 1 ∧ (starts (history moments))[place]? = some caller := by
    obtain ⟨call, found, returns⟩ := Option.bind_eq_some_iff.mp returned
    obtain ⟨operation, rfl⟩ := Call.returned?_eq_some_iff.mp returns
    have owns : ({ request := .initiate operation, phase := .answered (.ok (.started id)) } :
        Call).Owns id := ⟨⟨operation, rfl⟩, .inr rfl⟩
    exact ⟨_, found, owns, trace.place_of_owns found owns⟩
  constructor
  case owned =>
    intro up settled id live
    obtain ⟨slot, found⟩ := Option.isSome_iff_exists.mp live
    obtain ⟨caller, ⟨request, phase⟩, there, ⟨operation, asked⟩, reached⟩ :=
      trace.owner_of_live up patient found
    cases asked
    rcases reached with rfl | rfl
    · have blocked := settled (.call caller)
      simp [Broker.fire?, Broker.advanceCall?, there, up] at blocked
    · exact ⟨caller, by rw [Broker.returned?, there]; rfl⟩
  case numbered => exact trace.numbers.2
  case handled =>
    intro caller id returned
    obtain ⟨_, _, _, place, _, placed⟩ := returns returned
    exact List.mem_of_getElem? placed
  case unshared =>
    intro caller other id returned returned'
    obtain ⟨_, _, _, place, number, placed⟩ := returns returned
    obtain ⟨_, _, _, place', number', placed'⟩ := returns returned'
    cases Nat.succ.inj (number.symm.trans number')
    exact Option.some.inj (placed.symm.trans placed')
  case ascending =>
    refine List.pairwise_filterMap.mpr (List.pairwise_iff_getElem.mpr ?_)
    intro i j before after order id returned id' returned'
    obtain ⟨_, _, _, place, number, placed⟩ := returns returned
    obtain ⟨_, _, _, place', number', placed'⟩ := returns returned'
    have single := trace.starts_nodup
    obtain ⟨_, here⟩ := List.getElem?_eq_some_iff.mp placed
    obtain ⟨_, here'⟩ := List.getElem?_eq_some_iff.mp placed'
    cases single.getElem_inj_iff.mp here
    cases single.getElem_inj_iff.mp here'
    rw [number, number']
    exact Nat.succ_lt_succ order
  case blocked =>
    intro moment among caller operation found given handled
    obtain ⟨operation', handled⟩ := mem_starts.mp handled
    have submitted := mem_submissions.mp (trace.submitted_of_handled rfl handled)
    obtain ⟨first, later, after, rfl, before, _, _⟩ := trace.split among
    have nothing : submittedBy caller (history first) = [] := (before.submitted caller).2 _ found
    rw [trace.submittedBy_of_withholds found rfl (.inl given), nothing] at submitted
    cases submitted
  case queued =>
    intro moment among caller operation found given
    obtain ⟨first, later, after, rfl, before, taken, rest⟩ := trace.split among
    obtain ⟨broker, turn, events⟩ := moment
    have queued := before.wellFormed.awaited caller _ found rfl
    cases given
    cases taken
    have gone : (broker.receive (.abandon caller)).calls[caller]? =
        some { request := .initiate operation, phase := .abandoned } := by
      simp [Broker.receive, Broker.abandon, found, Call.isPending]
    have among : .start operation caller ∈ handledIn (history later) ++ last.queue :=
      rest.queue_balance ▸ List.mem_append_left _ queued
    rcases List.mem_append.mp among with handled | waiting
    · obtain ⟨opening, late, opens⟩ := List.mem_flatMap.mp (mem_handledIn.mp handled)
      obtain ⟨between, after, _, rfl, middle, _, _⟩ := rest.split late
      have there := (middle.silent_of_closed gone rfl).2
      rw [← List.cons_append, ← List.append_assoc] at trace ⊢
      exact .inr ⟨_, trace.orphaned_of_gone opens there⟩
    · exact .inl waiting
  case cleared =>
    intro up settled
    cases state : last.dispatcher with
    | idle => exact .inl rfl
    | dropped => exact .inr (.inl rfl)
    | running due => exact .inr (.inr (Broker.queue_of_blocked state up (settled .dispatcher)))
    | ended =>
      rcases trace.idle_of_ended state with down | empty
      · rw [up] at down
        cases down
      · exact .inr (.inr empty)

def Moment.isPatient (service : Service World Task) (moment : Moment World Task) : Bool :=
  match moment.turn with
  | .input (.abandon _) => (moment.broker.next? service).isNone
  | _ => true

theorem patient_of_isPatient (checked : moments.all (·.isPatient service) = true) :
    Patient service moments := by
  intro moment among caller operation phase found given
  have fits := List.all_eq_true.mp checked moment among
  rw [Moment.isPatient, given] at fits
  exact Broker.settled_iff.mpr (Option.isNone_iff_eq_none.mp fits)

/-- With room for one action and the dispatcher still to start, the second initiator gives up while
it is blocked and the first while it is queued. The third gets the second identifier, and a fourth
call guesses the first one. -/
def forsaking : List (Turn Catalogue) :=
  [.input (.request (.initiate .listInstances)), .move (.call 0),
    .input (.request (.initiate (.stop "vm"))), .input (.abandon 1),
    .input (.request (.initiate .listInstances)), .input (.abandon 0), .input .startDispatcher,
    .move .dispatcher, .move (.call 2), .move .dispatcher, .move (.call 2),
    .input (.request (.collect .listInstances 1)), .move (.call 3), .move .dispatcher,
    .move (.call 3), .input (.request .listTransactions), .move (.call 4), .move .dispatcher,
    .move (.call 4), .move (.run 1), .move (.run 1), .move (.run 2)]

theorem initiation_forsaking : ∃ moments last,
    (Broker.fresh narrow ⟨0, 0⟩ {} []).follow?
      (Simulated.Plan.service { operationDelay := ⟨5⟩ })
      forsaking = some (moments, last) ∧
    Patient (Simulated.Plan.service { operationDelay := ⟨5⟩ }) moments ∧
    starts (history moments) = [0, 2] ∧ openings (history moments) = [1, 2] ∧
    last.table.ids = [2] ∧ [0, 1, 2].map last.returned? = [none, none, some 2] ∧
    last.Settled (Simulated.Plan.service { operationDelay := ⟨5⟩ }) ∧
    Initiation (Simulated.Plan.service { operationDelay := ⟨5⟩ }) moments last := by
  have runs : ∃ moments last,
      (Broker.fresh narrow ⟨0, 0⟩ {} []).follow?
        (Simulated.Plan.service { operationDelay := ⟨5⟩ })
        forsaking = some (moments, last) ∧
      moments.all (·.isPatient (Simulated.Plan.service { operationDelay := ⟨5⟩ })) = true ∧
      starts (history moments) = [0, 2] ∧ openings (history moments) = [1, 2] ∧
      last.table.ids = [2] ∧ [0, 1, 2].map last.returned? = [none, none, some 2] ∧
      last.next? (Simulated.Plan.service { operationDelay := ⟨5⟩ }) = none :=
    ⟨_, _, rfl, rfl, rfl, rfl, rfl, rfl, rfl⟩
  obtain ⟨moments, last, followed, checked, started, opened, live, returned, blocked⟩ := runs
  have patient := patient_of_isPatient checked
  exact ⟨moments, last, followed, patient, started, opened, live, returned,
    Broker.settled_iff.mpr blocked, initiation_of_trace (.of_follow? followed) patient⟩

end InstanceBroker
