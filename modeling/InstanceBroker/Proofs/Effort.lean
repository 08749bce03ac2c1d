import InstanceBroker.Proofs.Quiescence
import InstanceBroker.Service.Scripted

namespace InstanceBroker

variable {World Task : Type} {service : Service World Task}

namespace Broker

section Total

variable {Item : Type} (effort : Item → Nat)

theorem total_append (first later : List Item) :
    total effort (first ++ later) = total effort first + total effort later := by
  induction first with
  | nil => simp [total]
  | cons item first ih =>
    simp only [total, List.cons_append, List.foldr_cons] at ih ⊢
    omega

theorem total_modify {items : List Item} {n : Nat} {item : Item} (found : items[n]? = some item)
    (change : Item → Item) :
    total effort (items.modify n change) + effort item =
      total effort items + effort (change item) := by
  induction items generalizing n with
  | nil => simp at found
  | cons first items ih =>
    cases n with
    | zero =>
      cases found
      simp only [total, List.modify_zero_cons, List.foldr_cons]
      omega
    | succ n =>
      have rest := @ih n (by simpa using found)
      simp only [total, List.modify_succ_cons, List.foldr_cons] at rest ⊢
      omega

theorem total_modify_same (items : List Item) (n : Nat) {change : Item → Item}
    (same : ∀ item, effort (change item) = effort item) :
    total effort (items.modify n change) = total effort items := by
  cases found : items[n]? with
  | none => rw [List.modify_eq_self (List.getElem?_eq_none_iff.mp found)]
  | some item =>
    have moved := total_modify effort found change
    rw [same] at moved
    exact Nat.add_right_cancel moved

end Total

variable {broker after : Broker World Task} {events : List Event}

theorem actionEffort_action (request : Request) (caller : CallId) :
    actionEffort service (request.action caller) = actionEffort service (request.action 0) := by
  cases request <;> rfl

theorem effort_mapRun (broker : Broker World Task) (id : TransactionId)
    {change : Run Task → Run Task}
    (same : ∀ run, runEffort service (change run) = runEffort service run) :
    total (runEffort service) (broker.mapRun id change).runs =
      total (runEffort service) broker.runs := by
  cases id with
  | zero => rfl
  | succ n => exact total_modify_same _ _ _ same

theorem effort_signal (service : Service World Task) (broker : Broker World Task)
    (id : TransactionId) :
    total (runEffort service) (broker.signal id).runs = total (runEffort service) broker.runs :=
  effort_mapRun broker id fun _ => rfl

theorem effort_foldl_signal (service : Service World Task) (broker : Broker World Task)
    (ids : List TransactionId) :
    total (runEffort service) (ids.foldl signal broker).runs =
      total (runEffort service) broker.runs := by
  induction ids generalizing broker with
  | nil => rfl
  | cons id ids ih => rw [List.foldl_cons, ih, effort_signal]

theorem effort_tell (service : Service World Task) (broker : Broker World Task) (caller : CallId)
    (reply : DispatcherReply) :
    total (callEffort service) (broker.tell caller reply).1.calls ≤
      total (callEffort service) broker.calls := by
  obtain ⟨request, waits, told⟩ | ⟨_, told⟩ := broker.tell_cases caller reply
  · have moved := total_modify (callEffort service) waits ({ · with phase := .told reply })
    rw [told]
    simp only [callEffort, setPhase] at moved ⊢
    omega
  · simp only [told, Nat.le_refl]

theorem effort_opening (tires : service.Tires) (broker : Broker World Task)
    (operation : Operation) :
    total (runEffort service) (broker.opening service operation).runs <
      total (runEffort service) broker.runs + (2 * service.cost operation + 3) := by
  have light := tires.enter_le broker.table.nextId operation
  simp only [opening, total_append]
  split <;> simp only [total, List.foldr_cons, List.foldr_nil, runEffort] <;> omega

theorem Handles.effort_lt (tires : service.Tires) {action : Action}
    (handles : Handles service broker action after events) :
    total (runEffort service) after.runs + total (callEffort service) after.calls <
      total (runEffort service) broker.runs + total (callEffort service) broker.calls +
        actionEffort service action := by
  cases handles with
  | @opened operation caller request waits =>
    have begun := effort_opening tires broker operation
    have moved := total_modify (callEffort service) waits
      ({ · with phase := .told (.opened broker.table.nextId) })
    simp only [callEffort] at moved
    simp only [setPhase, actionEffort, opening] at begun ⊢
    omega
  | @orphaned operation caller =>
    have begun := effort_opening tires broker operation
    have silent := effort_signal service (broker.opening service operation) broker.table.nextId
    have calls : ((broker.opening service operation).signal broker.table.nextId).calls =
        broker.calls := by
      rw [(signal_frame _).1]
      rfl
    simp only [discard, calls, actionEffort]
    omega
  | @granted id caller slot =>
    have told := effort_tell service
      { broker with table := broker.table.setState id .valueReady } caller .granted
    rw [tell_frame]
    simp only [actionEffort] at told ⊢
    omega
  | @refused id caller fault =>
    have told := effort_tell service broker caller (.refused fault)
    rw [tell_frame]
    simp only [actionEffort]
    omega
  | @inspected caller =>
    have told := effort_tell service broker caller
      (.listing broker.table.snapshot)
    rw [tell_frame]
    simp only [actionEffort]
    omega
  | @cancelled id =>
    have silent := effort_signal service broker id
    have calls : (broker.signal id).calls = broker.calls := by rw [(signal_frame _).1]
    simp only [calls, actionEffort]
    omega
  | cancelIgnored | completed | completeIgnored => exact Nat.lt_add_one _

theorem Advances.effort_lt (tires : service.Tires) {id : TransactionId} {run next : Run Task}
    {world : World} (advances : Advances service broker id run world next events) :
    runEffort service next < runEffort service run := by
  cases advances with
  | proceeded working demand =>
    have lighter := tires.proceed_lt _ _ _ _ _ _ demand
    simp only [runEffort, working]
    omega
  | reported working demand =>
    have lighter := tires.report_lt _ _ _ _ _ _ _ demand
    simp only [runEffort, working]
    omega
  | dropped working | finished working => simp only [runEffort, working]; omega
  | @accepted value task reporting =>
    have light := tires.resume_le true task
    simp only [runEffort, reporting]
    omega
  | @refused value task reporting =>
    have light := tires.resume_le false task
    simp only [runEffort, reporting]
    omega
  | delivered delivering | undelivered delivering => simp [runEffort, delivering]

theorem Progresses.effort_lt (service : Service World Task) {caller : CallId} {call : Call}
    {phase : Call.Phase} {actions : List Action}
    {taken : Option (TransactionId × List ResultValue)}
    (progresses : Progresses broker caller call phase actions taken events) :
    total (actionEffort service) actions + callEffort service { call with phase } <
      callEffort service call := by
  cases progresses with
  | preempted _ open_ =>
    rcases open_ with rfl | rfl | ⟨_, rfl⟩ <;>
      simp only [callEffort, total, List.foldr_nil] <;> omega
  | queued =>
    simp only [callEffort, total, List.foldr_cons, List.foldr_nil, actionEffort_action]
    omega
  | _ =>
    simp only [callEffort, total, List.foldr_cons, List.foldr_nil, actionEffort]
    omega

theorem effort_taking (taken : Option (TransactionId × List ResultValue)) :
    total (runEffort service) (broker.taking taken).runs =
      total (runEffort service) broker.runs := by
  cases taken with
  | none => rfl
  | some taken => exact effort_mapRun broker taken.1 fun _ => rfl

/-- Sweeps are some time apart, if there are any. -/
def Paced (broker : Broker World Task) : Prop :=
  broker.config.transactionTtl.isSome = true → 0 < broker.config.sweepInterval.nanos

theorem Dispatches.effort_lt (tires : service.Tires) (paced : broker.Paced)
    (running : ∃ due, broker.dispatcher = .running due)
    (dispatches : Dispatches service broker after events) :
    after.effort service < broker.effort service := by
  obtain ⟨due, running⟩ := running
  cases dispatches with
  | stopped =>
    have silent := effort_foldl_signal service broker broker.table.ids
    have runs : broker.stop.1.runs = (broker.table.ids.foldl signal broker).runs := rfl
    rw [stop_frame]
    have busy : 0 < broker.dispatcherEffort := by
      rw [dispatcherEffort, running]
      cases broker.config.transactionTtl with
      | none => exact Nat.one_pos
      | some => exact Nat.add_pos_left Nat.one_pos _
    simp only [effort, dispatcherEffort, runs, silent] at busy ⊢
    omega
  | @handled action queue _ later up head handles =>
    have less := handles.effort_lt tires
    have kept : after.dispatcherEffort = broker.dispatcherEffort := by
      rw [handles.frame]
      rfl
    have left : after.queue = queue := by rw [handles.frame]
    have more : total (actionEffort service) broker.queue =
        actionEffort service action + total (actionEffort service) queue := by
      rw [head]
      rfl
    simp only [effort, kept, left, more] at less ⊢
    omega
  | @swept ttl due' up idle running' limit reached =>
    have silent := effort_foldl_signal service broker
      (broker.table.expired ttl broker.clock)
    have runs : (broker.sweep ttl due').1.runs =
        ((broker.table.expired ttl broker.clock).foldl signal broker).runs := by
      simp only [sweep, foldl_discard]
    rw [sweep_frame]
    have positive := paced (by rw [limit]; rfl)
    -- The next sweep is one interval closer to the clock.
    have sooner : (broker.clock + broker.config.sweepInterval.nanos - broker.sweepAfter due') /
          broker.config.sweepInterval.nanos <
        (broker.clock + broker.config.sweepInterval.nanos - due') /
          broker.config.sweepInterval.nanos := by
      have apart : broker.clock + broker.config.sweepInterval.nanos - due' =
          (broker.clock + broker.config.sweepInterval.nanos - broker.sweepAfter due') +
            broker.config.sweepInterval.nanos := by
        simp only [sweepAfter]
        omega
      rw [apart, Nat.add_div_right _ positive]
      exact Nat.lt_succ_self _
    simp only [effort, dispatcherEffort, running', limit, runs, silent]
    omega

/-- Every move takes from the effort that is left. -/
theorem effort_lt (tires : service.Tires) (paced : broker.Paced) {move : Move}
    (fired : broker.fire? service move = some (after, events)) :
    after.effort service < broker.effort service := by
  have taken : broker.turn? service (.move move) = some (after, events) := fired
  cases turns_of_turn? taken with
  | dispatched running dispatches => exact dispatches.effort_lt tires paced running
  | @advanced id run next world _ moves advances =>
    have less := advances.effort_lt tires
    have moved : total (runEffort service) ({ broker with world }.mapRun id fun _ => next).runs +
        runEffort service run = total (runEffort service) broker.runs + runEffort service next := by
      cases id with
      | zero => cases moves
      | succ n => exact total_modify _ moves _
    have same : (({ broker with world }.mapRun id fun _ => next).dispatcherEffort) =
        broker.dispatcherEffort := by
      rw [(advanced_frame ..).1]
      rfl
    simp only [effort, same, mapRun_frame]
    omega
  | @progressed caller call phase actions values _ asks progresses =>
    have less := progresses.effort_lt service
    have moved := total_modify (callEffort service) asks ({ · with phase })
    have runs : total (runEffort service) (broker.moved caller phase actions values).runs =
        total (runEffort service) broker.runs := effort_taking values
    have calls : (broker.moved caller phase actions values).calls =
        broker.calls.modify caller ({ · with phase }) := (moved_frame ..).2.2
    have same : (broker.moved caller phase actions values).dispatcherEffort =
        broker.dispatcherEffort := by
      rw [(moved_frame ..).1]
      rfl
    have queue := @queue_moved _ _ broker caller phase actions values
    simp only [effort, same, queue, runs, calls, total_append]
    omega

theorem paced_step {turn : Turn World} (paced : broker.Paced)
    (taken : broker.turn? service turn = some (after, events)) : after.Paced := by
  have same := (settings_step taken).1
  rw [Paced, same]
  exact paced

theorem fired_of_next? (next : broker.next? service = some (after, events)) :
    ∃ move, broker.fire? service move = some (after, events) := by
  obtain ⟨move, _, fired⟩ := List.exists_of_findSome?_eq_some next
  exact ⟨move, fired⟩

theorem settled_of_effort_le (tires : service.Tires) (paced : broker.Paced) {moves : Nat}
    (enough : broker.effort service ≤ moves) :
    (settleWithin service moves broker).1.Settled service := by
  induction moves generalizing broker with
  | zero =>
    -- Without effort left there is no move.
    rw [settled_iff]
    cases next : broker.next? service with
    | none => exact next
    | some step =>
      obtain ⟨move, fired⟩ := fired_of_next? next
      have none := Nat.le_zero.mp enough
      exact absurd (none ▸ effort_lt tires paced fired) (Nat.not_lt_zero _)
  | succ moves ih =>
    simp only [settleWithin]
    split
    · rename_i blocked
      exact settled_iff.mpr blocked
    · rename_i after events next
      obtain ⟨move, fired⟩ := fired_of_next? next
      have less := effort_lt tires paced fired
      have taken : broker.turn? service (.move move) = some (after, events) := fired
      exact ih (paced_step paced taken) (Nat.le_of_lt_succ (Nat.lt_of_lt_of_le less enough))

theorem settled_settle (tires : service.Tires) (paced : broker.Paced) :
    (broker.settle service).1.Settled service := settled_of_effort_le tires paced (Nat.le_refl _)

theorem settleWithin_of_settled (settled : broker.Settled service) (moves : Nat) :
    settleWithin service moves broker = (broker, []) := by
  cases moves with
  | zero => rfl
  | succ moves => simp only [settleWithin, settled_iff.mp settled]

end Broker

namespace Scripted.Scripts

theorem le_foldl_longest (scripts : Scripts) (most : Nat) :
    most ≤ scripts.foldl (fun most entry => max most entry.2.acts.length) most := by
  induction scripts generalizing most with
  | nil => exact Nat.le_refl _
  | cons entry scripts ih => exact Nat.le_trans (Nat.le_max_left ..) (ih _)

theorem length_le_longest {scripts : Scripts} {id : TransactionId} {script : Script}
    (found : scripts.lookup id = some script) : script.acts.length ≤ scripts.longest := by
  obtain ⟨first, later, rfl, _⟩ := List.lookup_eq_some_iff.mp found
  rw [longest, List.foldl_append, List.foldl_cons]
  exact Nat.le_trans (Nat.le_max_right ..) (le_foldl_longest ..)

def Lighter (scripts : Scripts) (bound : Nat) {kind : Operation.Kind} :
    Demand World Phase kind → Prop
  | .wait | .finish .. => True
  | .proceed _ next | .report _ next _ => scripts.weight next < bound

theorem lighter_settleAct (scripts : Scripts) (script : Script) (context : Context)
    (kind : Operation.Kind) (world : Scripted.World) {rest : List Act}
    (verdict : Except OperationError Unit) {bound : Nat} (room : 3 * rest.length + 1 < bound) :
    Lighter scripts bound (settleAct script context kind world rest verdict) := by
  cases verdict with
  | ok => exact room
  | error e =>
    simp only [settleAct]
    split
    · exact room
    · exact trivial

theorem lighter_play (scripts : Scripts) {script : Script}
    (bounded : script.acts.length ≤ scripts.longest) (context : Context) (operation : Operation)
    (world : Scripted.World) (phase : Phase) :
    Lighter scripts (scripts.weight phase) (play script context operation world phase) := by
  cases phase with
  | entering =>
    simp only [play, Lighter, weight]
    omega
  | playing acts =>
    cases acts with
    | nil => exact trivial
    | cons act rest =>
      simp only [play]
      split
      · simp only [Lighter, weight, List.length_cons, List.drop_one, List.tail_cons]
        omega
      · cases act.verdict? context world with
        | none => exact trivial
        | some verdict =>
          refine lighter_settleAct scripts script context operation.kind world verdict ?_
          simp only [weight, List.length_cons]
          omega
  | reported acts accepted => exact lighter_settleAct _ _ _ _ _ _ (Nat.lt_succ_self _)

theorem lighter_step (scripts : Scripts) (context : Context) (operation : Operation)
    (world : Scripted.World) (phase : Phase) :
    Lighter scripts (scripts.weight phase) (scripts.step context operation world phase) := by
  simp only [step]
  split
  · rename_i script found
    exact scripts.lighter_play (length_le_longest found) context operation world phase
  · exact trivial

theorem tires (scripts : Scripts) : scripts.service.Tires where
  enter_le _ _ := Nat.le_refl _
  resume_le accepted phase := by cases phase <;> exact Nat.le_refl _
  proceed_lt context operation world phase world' next demand := by
    have lighter := scripts.lighter_step context operation world phase
    have proceeds : scripts.step context operation world phase = .proceed world' next := demand
    rwa [proceeds] at lighter
  report_lt context operation world phase progress next isCreate demand := by
    have lighter := scripts.lighter_step context operation world phase
    have reports : scripts.step context operation world phase = .report progress next isCreate :=
      demand
    rwa [reports] at lighter

end Scripted.Scripts

end InstanceBroker
