import InstanceBroker.Proofs.WellFormed
import InstanceBroker.Service.Simulated

namespace InstanceBroker

variable {World Task : Type} {service : Service World Task}

namespace Broker

def isSignalled (broker : Broker World Task) (id : TransactionId) : Bool :=
  (broker.run? id).any (·.cancelled)

inductive Dooms (broker : Broker World Task) (id : TransactionId) : Action → Prop
  | cancelled (live : broker.table.isLive id = true) : Dooms broker id (.cancel id)
  | discarded {operation : Operation} {caller : CallId} (next : id = broker.table.nextId)
      (gone : ∀ call, broker.calls[caller]? = some call → call.phase ≠ .awaiting) :
      Dooms broker id (.start operation caller)

def Threatens (broker : Broker World Task) (id : TransactionId) : Action → Prop
  | .cancel transaction => transaction = id
  | .start _ _ => id = broker.table.nextId
  | .getResult _ _ | .complete _ | .inspect _ => False

end Broker

inductive Moment.Strikes (id : TransactionId) (moment : Moment World Task) : Prop
  | handled {action : Action} (handled : .handled action ∈ moment.events)
      (dooms : moment.broker.Dooms id action)
  | swept (swept : .swept id ∈ moment.events)
  | stopped {ids : List TransactionId} (live : moment.broker.table.isLive id = true)
      (stopped : .stopped ids ∈ moment.events)

namespace Broker

variable {broker after : Broker World Task} {turn : Turn World} {events : List Event}
  {action : Action} {id : TransactionId}

theorem Dooms.threatens (dooms : broker.Dooms id action) : broker.Threatens id action := by
  cases dooms with
  | cancelled => rfl
  | discarded next => exact next

theorem dooms_withQueue (queue : List Action) :
    ({ broker with queue } : Broker World Task).Dooms id action ↔ broker.Dooms id action := by
  constructor
  · intro dooms
    cases dooms with
    | cancelled live => exact .cancelled live
    | discarded next gone => exact .discarded next gone
  · intro dooms
    cases dooms with
    | cancelled live => exact .cancelled live
    | discarded next gone => exact .discarded next gone

theorem isLive_of_expired {ttl : Duration}
    (expired : id ∈ broker.table.expired ttl broker.clock) :
    broker.table.isLive id = true := by
  obtain ⟨slot, old, rfl⟩ := List.mem_map.mp expired
  exact (Table.isLive_iff ..).mpr (List.mem_map_of_mem (List.mem_filter.mp old).1)

theorem signalled_of_same {strikes : Prop} (same : after.run? id = broker.run? id)
    (harmless : ¬ strikes) :
    after.isSignalled id = true ↔ broker.isSignalled id = true ∨ strikes := by
  rw [isSignalled, same]
  exact (or_iff_left harmless).symm

theorem signalled_of_struck {run : Run Task} {strikes : Prop} (found : broker.run? id = some run)
    (signalled : after.run? id = (broker.run? id).map ({ · with cancelled := true }))
    (struck : strikes) :
    after.isSignalled id = true ↔ broker.isSignalled id = true ∨ strikes := by
  rw [isSignalled, signalled, found]
  exact ⟨fun _ => .inr struck, fun _ => rfl⟩

theorem Handles.signalled_iff (handles : Handles service broker action after events)
    (numbered : broker.table.nextId = broker.runs.length + 1)
    (known : broker.table.isLive id = true → ∃ run, broker.run? id = some run) :
    after.isSignalled id = true ↔ broker.isSignalled id = true ∨ broker.Dooms id action := by
  have unopened : broker.run? (broker.runs.length + 1) = none := by
    rw [run?, List.getElem?_eq_none (Nat.le_refl _)]
  cases handles with
  | @opened operation caller request waits =>
    have spared : ¬ broker.Dooms id (.start operation caller) := by
      intro dooms
      cases dooms with
      | discarded _ gone => exact gone _ waits rfl
    by_cases next : id = broker.runs.length + 1
    · subst next
      simp [isSignalled, run?_opening, Broker.opened, unopened, spared]
    · refine signalled_of_same ?_ spared
      rw [run?_setPhase, run?_opening, if_neg next]
  | @orphaned operation caller gone =>
    by_cases next : id = broker.table.nextId
    · have struck : broker.Dooms id (.start operation caller) := .discarded next gone
      subst next
      simp [isSignalled, run?_discard, run?_opening, numbered, numbered ▸ struck]
    · refine signalled_of_same ?_ fun dooms => next dooms.threatens
      rw [run?_discard, if_neg next, run?_opening, if_neg (numbered ▸ next)]
  | granted | refused | inspected =>
    rw [tell_frame]
    exact signalled_of_same (broker.run?_congr rfl id) fun dooms => by cases dooms
  | @cancelled transaction live =>
    by_cases equal : id = transaction
    · subst equal
      obtain ⟨run, found⟩ := known live
      refine signalled_of_struck found ?_ (.cancelled live)
      rw [run?_withTable, run?_signal, if_pos rfl]
    · refine signalled_of_same ?_ fun dooms => equal dooms.threatens.symm
      rw [run?_withTable, run?_signal, if_neg equal]
  | @cancelIgnored transaction gone =>
    refine signalled_of_same rfl fun dooms => ?_
    cases dooms with
    | cancelled live =>
      rw [gone] at live
      cases live
  | completed => exact signalled_of_same (broker.run?_congr rfl id) fun dooms => by cases dooms
  | completeIgnored => exact signalled_of_same rfl fun dooms => by cases dooms

theorem signalled_kept (taken : broker.turn? service turn = some (after, events))
    (numbered : broker.table.nextId = broker.runs.length + 1) (other : turn ≠ .move .dispatcher) :
    after.isSignalled id = broker.isSignalled id := by
  cases found : broker.run? id with
  | none =>
    cases (run_begun taken numbered found).2.2 with
    | missing none => simp only [isSignalled, found, none]
    | opened | orphaned => exact absurd rfl other
  | some run =>
    obtain ⟨next, there, step⟩ := run_step taken found
    simp only [isSignalled, found, there, Option.any_some]
    cases step with
    | kept | read => rfl
    | advanced advances => cases advances <;> rfl
    | signalled => exact absurd rfl other

theorem dispatcher_of_strikes (taken : broker.turn? service turn = some (after, events))
    (strikes : Moment.Strikes id ⟨broker, turn, events⟩) : turn = .move .dispatcher := by
  cases turns_of_turn? taken with
  | dispatched => rfl
  | advanced _ advances =>
    cases strikes with
    | handled among | swept among | stopped _ among => cases advances <;> simp at among
  | progressed _ progresses =>
    cases strikes with
    | handled among | swept among | stopped _ among => cases progresses <;> simp at among
  | received | changed =>
    cases strikes with
    | handled among | swept among | stopped _ among => cases among

theorem Handles.strikes_iff (handles : Handles service broker action after events)
    {before : Broker World Task} (turn : Turn World) :
    Moment.Strikes id ⟨before, turn, .handled action :: events⟩ ↔ before.Dooms id action := by
  constructor
  · intro strikes
    cases strikes with
    | handled among dooms =>
      rcases List.mem_cons.mp among with equal | later
      · cases equal
        exact dooms
      · exact absurd later handles.unhandled
    | swept among | stopped _ among => cases handles <;> simp at among
  · intro dooms
    exact .handled List.mem_cons_self dooms

theorem signalled_step (formed : broker.WellFormed)
    (taken : broker.turn? service turn = some (after, events)) :
    after.isSignalled id = true ↔
      broker.isSignalled id = true ∨ Moment.Strikes id ⟨broker, turn, events⟩ := by
  -- Nothing is struck and nothing is signalled but by the dispatcher, in one of its three turns.
  by_cases own : turn = .move .dispatcher
  · subst own
    cases (dispatches_of_dispatch? taken).2 with
    | stopped =>
      by_cases live : id ∈ broker.table.ids
      · have here := (Table.isLive_iff ..).mpr live
        obtain ⟨run, found⟩ := formed.run?_isSome here
        refine signalled_of_struck found ?_ (.stopped here List.mem_cons_self)
        rw [run?_stop, if_pos live]
      · refine signalled_of_same ?_ fun strikes => ?_
        · rw [run?_stop, if_neg live]
        · cases strikes with
          | handled among | swept among => simp at among
          | stopped here => exact live ((Table.isLive_iff ..).mp here)
    | @handled action queue _ later up head handles =>
      rw [handles.strikes_iff]
      have runs : { broker with queue }.run? id = broker.run? id := broker.run?_congr rfl id
      have known (live : broker.table.isLive id = true) :
          ∃ run, { broker with queue }.run? id = some run := runs ▸ formed.run?_isSome live
      have same : { broker with queue }.isSignalled id = broker.isSignalled id :=
        congrArg (·.any (·.cancelled)) runs
      have doomed : { broker with queue }.Dooms id action ↔ broker.Dooms id action :=
        dooms_withQueue queue
      have step := handles.signalled_iff formed.numbered known
      rwa [same, doomed] at step
    | @swept ttl due =>
      by_cases expired : id ∈ broker.table.expired ttl broker.clock
      · have here := isLive_of_expired expired
        obtain ⟨run, found⟩ := formed.run?_isSome here
        refine signalled_of_struck found ?_ (.swept (List.mem_map_of_mem expired))
        rw [run?_sweep, if_pos expired]
      · refine signalled_of_same ?_ fun strikes => ?_
        · rw [run?_sweep, if_neg expired]
        · cases strikes with
          | handled among | stopped _ among => simp at among
          | swept among => exact expired (by simpa using among)
  · rw [signalled_kept taken formed.numbered own]
    exact (or_iff_left fun strikes => own (dispatcher_of_strikes taken strikes)).symm

theorem shutdown_step (taken : broker.turn? service turn = some (after, events)) :
    after.shutdown = true ↔ broker.shutdown = true ∨ turn = .input .shutdown := by
  cases turns_of_turn? taken with
  | dispatched running dispatches =>
    cases dispatches with
    | stopped =>
      rw [stop_frame]
      simp
    | handled up head handles =>
      rw [handles.frame]
      simp
    | swept =>
      rw [sweep_frame]
      simp
  | advanced =>
    rw [(advanced_frame ..).1]
    simp
  | progressed =>
    rw [(moved_frame ..).1]
    simp
  | @received input =>
    cases input with
    | shutdown => simp [receive]
    | request request =>
      simp only [receive]
      split <;> simp
    | startDispatcher =>
      simp only [receive, startDispatcher]
      split <;> simp
    | dropDispatcher =>
      simp only [receive, dropDispatcher]
      split <;> simp
    | tick | close | abandon => simp [receive, abandon]
  | changed => simp

theorem shutdown_kept (taken : broker.turn? service turn = some (after, events))
    (other : turn ≠ .input .shutdown) : after.shutdown = broker.shutdown := by
  rw [Bool.eq_iff_iff, shutdown_step taken]
  exact or_iff_left other

theorem isCancelled_spared (formed : broker.WellFormed)
    (taken : broker.turn? service turn = some (after, events)) (other : turn ≠ .input .shutdown)
    (spared : ¬ Moment.Strikes id ⟨broker, turn, events⟩) :
    after.isCancelled id = broker.isCancelled id := by
  have signalled : after.isSignalled id = broker.isSignalled id := by
    rw [Bool.eq_iff_iff, signalled_step formed taken]
    exact or_iff_left spared
  rw [isCancelled, shutdown_kept taken other]
  exact congrArg (broker.shutdown || ·) signalled

theorem missing_of_removed (taken : broker.turn? service turn = some (after, events))
    (removed : .swept id ∈ events ∨ ∃ ids, .stopped ids ∈ events) :
    after.table.find? id = none := by
  cases turns_of_turn? taken with
  | dispatched running dispatches =>
    cases dispatches with
    | stopped =>
      rw [stop_frame]
      exact Table.find?_clear ..
    | handled up head handles => cases handles <;> simp at removed
    | @swept ttl due =>
      have expired : id ∈ broker.table.expired ttl broker.clock := by simpa using removed
      simp only [sweep, foldl_discard, Table.find?_foldl_erase]
      exact if_pos expired
  | advanced _ advances => cases advances <;> simp at removed
  | progressed _ progresses => cases progresses <;> simp at removed
  | received | changed => simp at removed

theorem Handles.marked_of_dooms (handles : Handles service broker action after events)
    (dooms : broker.Dooms id action) {slot : Slot} (there : after.table.find? id = some slot) :
    slot.state = .cancelled := by
  cases dooms with
  | cancelled live =>
    cases handles with
    | cancelled =>
      obtain ⟨old, found⟩ := Option.isSome_iff_exists.mp live
      rw [Table.cancel, Table.find?_setState, if_pos rfl, found] at there
      cases there
      rfl
    | cancelIgnored gone =>
      rw [live] at gone
      cases gone
  | discarded next gone =>
    cases handles with
    | opened waits => exact absurd rfl (gone _ waits)
    | orphaned =>
      rw [discard, Table.find?_erase, if_pos next] at there
      cases there

theorem marked_of_strikes (taken : broker.turn? service turn = some (after, events))
    (strikes : Moment.Strikes id ⟨broker, turn, events⟩) {slot : Slot}
    (there : after.table.find? id = some slot) : slot.state = .cancelled := by
  cases strikes with
  | handled among dooms =>
    obtain ⟨_, _, _, _, _, handles⟩ := handles_of_handled taken among
    exact handles.marked_of_dooms ((dooms_withQueue _).mpr dooms) there
  | swept among =>
    rw [missing_of_removed taken (.inl among)] at there
    cases there
  | stopped _ among =>
    rw [missing_of_removed taken (.inr ⟨_, among⟩)] at there
    cases there

def Marked (broker : Broker World Task) : Prop :=
  ∀ id slot, broker.table.find? id = some slot →
    (slot.state = .cancelled ↔ broker.isSignalled id = true)

theorem marked_step (formed : broker.WellFormed) (marked : broker.Marked)
    (taken : broker.turn? service turn = some (after, events)) : after.Marked := by
  intro id slot there
  constructor
  · intro cancelled
    obtain ⟨run, found, signalled⟩ := (formed.step taken).cancelled id slot there cancelled
    rw [isSignalled, found]
    exact signalled
  · intro signalled
    rcases (signalled_step formed taken).mp signalled with before | strikes
    · cases found : broker.table.find? id with
      | none =>
        rcases slot_begun taken found with missing | ⟨next, _⟩
        · rw [missing] at there
          cases there
        · -- No run has the next identifier yet.
          have unopened : broker.run? id = none := by
            rw [next, formed.numbered, run?, List.getElem?_eq_none (Nat.le_refl _)]
          rw [isSignalled, unopened] at before
          cases before
      | some old =>
        have cancelled := (marked id old found).mpr before
        have step := slot_step taken found (formed.old_of_find? found)
        rw [there] at step
        cases step with
        | kept => exact cancelled
        | accessed usable => exact absurd cancelled usable
        | cancelled => rfl
    · exact marked_of_strikes taken strikes there

end Broker

namespace Trace

variable {start last : Broker World Task} {moments : List (Moment World Task)}

theorem signalled_iff (trace : Trace service start moments last) (formed : start.WellFormed)
    (id : TransactionId) :
    last.isSignalled id = true ↔
      start.isSignalled id = true ∨ ∃ moment ∈ moments, moment.Strikes id := by
  induction trace with
  | nil => simp
  | @snoc moments broker after turn events earlier taken ih =>
    rw [Broker.signalled_step (earlier.formed formed) taken, ih]
    simp [or_assoc, or_and_right, exists_or]

theorem struck_iff {config : Config} {origin : Timestamp} {world : World}
    {thrownAway : List TransactionId}
    (trace : Trace service (.fresh config origin world thrownAway) moments last)
    (id : TransactionId) :
    last.isSignalled id = true ↔ ∃ moment ∈ moments, moment.Strikes id := by
  have none : ¬ (Broker.fresh config origin world thrownAway : Broker World Task).isSignalled id =
      true := by cases id <;> nofun
  rw [trace.signalled_iff (.fresh config origin world thrownAway)]
  exact or_iff_right none

theorem shutdown_iff (trace : Trace service start moments last) :
    last.shutdown = true ↔
      start.shutdown = true ∨ ∃ moment ∈ moments, moment.turn = .input .shutdown := by
  induction trace with
  | nil => simp
  | snoc earlier taken ih =>
    rw [Broker.shutdown_step taken, ih]
    simp [or_assoc, or_and_right, exists_or]

theorem marked (trace : Trace service start moments last) (formed : start.WellFormed)
    (marked : start.Marked) : last.Marked := by
  induction trace with
  | nil => exact marked
  | snoc earlier taken ih => exact Broker.marked_step (earlier.formed formed) ih taken

end Trace

structure Causes (service : Service World Task) (moments : List (Moment World Task))
    (last : Broker World Task) : Prop where
  token : ∀ id, (last.context id).cancelled = true ↔
    last.shutdown = true ∨ ∃ moment ∈ moments, moment.Strikes id
  fired : last.shutdown = true ↔ ∃ moment ∈ moments, moment.turn = .input .shutdown
  /-- Nothing but the input shuts down, and a transaction that is not struck is left alone. -/
  alone : ∀ turn after events, last.turn? service turn = some (after, events) →
    turn ≠ .input .shutdown → after.shutdown = last.shutdown ∧
    ∀ id, ¬ Moment.Strikes id ⟨last, turn, events⟩ →
      after.isCancelled id = last.isCancelled id
  harmless : ∀ turn after events action, last.turn? service turn = some (after, events) →
    .handled action ∈ events → after.shutdown = last.shutdown ∧
    ∀ id, ¬ last.Threatens id action → after.isCancelled id = last.isCancelled id
  marked : last.shutdown = false → ∀ id slot, last.table.find? id = some slot →
    (slot.state = .cancelled ↔ last.isCancelled id = true)

theorem causes_of_trace {config : Config} {origin : Timestamp} {world : World}
    {thrownAway : List TransactionId} {moments : List (Moment World Task)}
    {last : Broker World Task}
    (trace : Trace service (.fresh config origin world thrownAway) moments last) :
    Causes service moments last := by
  have formed := trace.wellFormed
  have shutdown :
      last.shutdown = true ↔ ∃ moment ∈ moments, moment.turn = .input .shutdown := by
    rw [trace.shutdown_iff]
    exact or_iff_right nofun
  exact {
    token := by
      intro id
      rw [← trace.struck_iff id]
      exact Bool.or_eq_true_iff
    fired := shutdown
    alone := by
      intro turn after events taken other
      refine ⟨Broker.shutdown_kept taken other, fun id spared => ?_⟩
      exact Broker.isCancelled_spared formed taken other spared
    harmless := by
      intro turn after events action taken among
      obtain ⟨later, rfl, rfl, _, _, handles⟩ := Broker.handles_of_handled taken among
      have other : (.move .dispatcher : Turn World) ≠ .input .shutdown := nofun
      refine ⟨Broker.shutdown_kept taken other, fun id safe => ?_⟩
      refine Broker.isCancelled_spared formed taken other fun strikes => ?_
      exact safe ((handles.strikes_iff _).mp strikes).threatens
    marked := by
      intro up id slot found
      have begun : (Broker.fresh config origin world thrownAway : Broker World Task).Marked := nofun
      have marked := trace.marked (.fresh config origin world thrownAway) begun id slot found
      rw [marked, Broker.isCancelled, up]
      rfl }

def parting : List (Turn Catalogue) :=
  [.input .startDispatcher, .input (.request (.initiate .listInstances)), .move (.call 0),
    .input (.request (.initiate .listInstances)), .move (.call 1), .input (.abandon 1),
    .input (.request (.initiate .listInstances)), .move (.call 2), .move .dispatcher,
    .move .dispatcher, .move .dispatcher, .input (.request (.cancel 1)), .move (.call 3),
    .move .dispatcher]

theorem causes_parting : ∃ moments last,
    (Broker.fresh {} ⟨0, 0⟩ {} []).follow? (Simulated.Plan.service {}) parting =
      some (moments, last) ∧
    last.table.snapshot.map (fun info => (info.id, info.state)) =
      [(1, .cancelled), (3, .pending)] ∧
    [1, 2, 3].map (fun id => (last.context id).cancelled) = [true, true, false] ∧
    Causes (Simulated.Plan.service {}) moments last := by
  have runs : ∃ moments last,
      (Broker.fresh {} ⟨0, 0⟩ {} []).follow? (Simulated.Plan.service {}) parting =
        some (moments, last) ∧
      last.table.snapshot.map (fun info => (info.id, info.state)) =
        [(1, .cancelled), (3, .pending)] ∧
      [1, 2, 3].map (fun id => (last.context id).cancelled) = [true, true, false] :=
    ⟨_, _, rfl, rfl, rfl⟩
  obtain ⟨moments, last, followed, states, tokens⟩ := runs
  exact ⟨moments, last, followed, states, tokens, causes_of_trace (.of_follow? followed)⟩

end InstanceBroker
