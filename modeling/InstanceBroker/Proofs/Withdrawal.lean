import InstanceBroker.Proofs.Isolation
import InstanceBroker.Proofs.Withdrawal.Session

namespace InstanceBroker

open Broker (Settling Settles SettlesInOrder Drifts Reacts Heedless Matches paced_step)

namespace Session

variable {World Task : Type} {backend : Backend World Task} {id : TransactionId} {caller : CallId}
  {settling : Settling World Task}

section Unfolding

variable {state last waiting : State World Task} {index : Nat} {steps later : List Step}
  {reports more : List Report}

theorem State.Unfolds.append {middle : Nat}
    (first : state.Unfolds backend settling index steps reports waiting)
    (next : waiting.Unfolds backend settling middle later more last)
    (place : middle = index + steps.length) :
    state.Unfolds backend settling index (steps ++ later) (reports ++ more) last := by
  subst place
  induction first with
  | nil => exact next
  | @cons _ _ index step steps _ _ _ takes _ ih =>
    refine .cons takes (ih ?_)
    rwa [Nat.add_right_comm, Nat.add_assoc]

theorem State.Unfolds.split
    (unfolds : state.Unfolds backend settling index (steps ++ later) reports last) :
    ∃ first more waiting, reports = first ++ more ∧
      state.Unfolds backend settling index steps first waiting ∧
      waiting.Unfolds backend settling (index + steps.length) later more last := by
  induction steps generalizing state index reports with
  | nil => exact ⟨[], reports, state, rfl, .nil, unfolds⟩
  | cons step steps ih =>
    cases unfolds with
    | cons takes unfolds =>
      obtain ⟨first, more, waiting, rfl, earlier, onward⟩ := ih unfolds
      refine ⟨_, more, waiting, rfl, .cons takes earlier, ?_⟩
      rwa [List.length_cons, Nat.add_comm steps.length, ← Nat.add_assoc]

theorem State.Unfolds.numbered (heedless : Heedless backend.service settling)
    (numbered : state.Numbered index)
    (unfolds : state.Unfolds backend settling index steps reports last) :
    last.Numbered (index + steps.length) := by
  induction unfolds with
  | nil => exact numbered
  | cons takes _ ih =>
    have onward := ih (numbered.next (takes.count_eq heedless _))
    rwa [Nat.add_right_comm, Nat.add_assoc] at onward

theorem State.Unfolds.requested_grow
    (unfolds : state.Unfolds backend settling index steps reports last) :
    ∃ added, last.requested = state.requested ++ added ∧ ∀ n ∈ added, index ≤ n := by
  induction unfolds with
  | nil => exact ⟨[], (List.append_nil _).symm, nofun⟩
  | @cons state last index step steps events broker reports takes _ ih =>
    obtain ⟨added, grown, onward⟩ := ih
    rw [requested_of_conclude, List.append_assoc] at grown
    refine ⟨_, grown, fun n among => ?_⟩
    rcases List.mem_append.mp among with now | then_
    · cases step with
      | request request =>
        simp only [State.added] at now
        split at now
        · exact Nat.le_of_eq (List.mem_singleton.mp now).symm
        · cases now
      | _ => cases now
    · exact Nat.le_of_succ_le (onward n then_)

theorem State.Unfolds.reportsFade_self
    (unfolds : state.Unfolds backend settling index steps reports last) :
    ReportsFade id steps reports reports := by
  induction unfolds with
  | nil => exact .nil
  | cons takes _ ih =>
    exact .cons (fun _ _ => .same) (List.forall₂_same.mpr fun _ _ => ⟨rfl, .same⟩) ih

end Unfolding

section Call

variable {state state' last waiting : State World Task} {index asked : Nat} {events : List Event}
  {broker : Broker World Task} {kind : Operation.Kind} {before between later : List Step}
  {reports more : List Report}

theorem takes_idle {middle : Broker World Task} (settles : settling state.broker events middle) :
    state.Takes backend settling (.advance 0) (events ++ []) middle := .intro settles .nil

theorem exists_made (heedless : Heedless backend.service settling) (sane : state.broker.Sane)
    (numbered : state.Numbered index) (reachable : state.broker.reachable = true)
    (takes : state.Takes backend settling (.request (.collect kind id)) events broker) :
    broker.Bound state.broker.calls.length id ∨
      ∃ events' broker', state.Takes backend settling (.advance 0) events' broker' ∧
        Lacking state.broker.calls.length id index (index + 1)
          (state.conclude backend index (.request (.collect kind id)) broker events).1
          (state.conclude backend index (.advance 0) broker' events').1 ∧
        List.Forall₂ (AnswerFades state.broker.calls.length id) (answers events)
          (answers events') := by
  have count := takes.count_eq heedless index
  cases takes with
  | @intro first later middle _ settles reacts =>
    cases reacts with
    | @cons _ after _ _ _ second _ reacts rest =>
      cases rest
      have drifts := heedless.drifts settles
      obtain ⟨_, trace⟩ := drifts.trace
      have beside := (sane.trace trace).alongside backend.service
        (drifts.reachable_eq.trans reachable) kind id
      rw [drifts.count_eq] at beside
      rcases heedless.beside beside reacts with
        ⟨_, bound⟩ | ⟨later', broker', settles', beside', told⟩
      · exact .inl bound
      · have added : state.added index (.request (.collect kind id)) = [index] := if_pos reachable
        refine .inr ⟨_, broker', takes_idle (heedless.append sane.paced settles settles'),
          ⟨beside', rfl, ?_, ?_, numbered.next count⟩, ?_⟩
        · rw [requested_of_conclude, requested_of_conclude, added, ← numbered.counted,
            List.eraseIdx_append_of_length_le (Nat.le_refl _), Nat.sub_self]
          rfl
        · rw [requested_of_conclude, added, ← numbered.counted, List.getElem?_concat_length]
        · -- What was answered before the call was made is answered in both sessions.
          have same : List.Forall₂ (AnswerFades state.broker.calls.length id) (answers first)
              (answers first) := by
            rw [List.forall₂_same]
            rintro ⟨other, outcome⟩ among
            have inside := drifts.answered among
            exact ⟨Nat.ne_of_lt inside, (if_pos inside).symm, .same⟩
          simp only [answers, List.append_nil, List.filterMap_append]
          exact List.rel_append same told

theorem exists_dropped (heedless : Heedless backend.service settling)
    (lacking : Lacking caller id asked index state state')
    (settled : state.broker.Settled backend.service)
    (pending : (state.pendingCall? asked).isSome = true)
    (takes : state.Takes backend settling (.dropCall asked) events broker) :
    broker.GivenUp caller ∧
      ∃ events' broker', state'.Takes backend settling (.advance 0) events' broker' ∧
        Lacking caller id asked (index + 1)
          (state.conclude backend index (.dropCall asked) broker events).1
          (state'.conclude backend index (.advance 0) broker' events').1 ∧
        List.Forall₂ (AnswerFades caller id) (answers events) (answers events') := by
  have sane := lacking.brokers.sane
  have count := takes.count_eq heedless index
  obtain ⟨other, pends⟩ := Option.isSome_iff_exists.mp pending
  cases lacking.pendingCall?_self pends
  obtain ⟨_, call, found, waits⟩ :=
    (pendingCall?_eq_some_iff lacking.numbered.distinct).mp pends
  cases takes with
  | @intro first later middle _ settles reacts =>
    have drifts := heedless.drifts settles
    obtain ⟨rfl, rfl⟩ := drifts.of_settled settled
    have inputs : state.inputs (.dropCall asked) = [.abandon caller] := by
      simp [State.inputs, pends]
    rw [inputs] at reacts
    cases reacts with
    | @cons _ _ _ _ _ second _ reacts rest =>
      cases rest
      rcases heedless.beside lacking.brokers settles with
        ⟨_, bound⟩ | ⟨first', middle', settles', beside, silent⟩
      · rw [bound.not_pending sane.formed sane.manned sane.roomy settled found] at waits
        cases waits
      · obtain ⟨givenUp, beside⟩ := beside.abandon settled found waits
        rcases heedless.beside beside reacts with
          ⟨never, _⟩ | ⟨later', broker', settles'', beside', told⟩
        · exact absurd givenUp never
        · have ended := heedless.drifts reacts
          obtain ⟨_, trace⟩ := ended.trace
          refine ⟨givenUp.trace trace, _, broker',
            takes_idle (heedless.append lacking.brokers.paced settles' settles''),
            lacking.next backend count rfl beside' _ _, ?_⟩
          simp only [answers, List.append_nil, List.nil_append, List.filterMap_append]
          exact List.rel_append silent told

theorem not_bound (sane : waiting.broker.Sane) (numbered : waiting.Numbered index)
    (settled : waiting.broker.Settled backend.service)
    (own : waiting.requested[caller]? = some asked)
    (pending : (waiting.pendingCall? asked).isSome = true) : ¬ waiting.broker.Bound caller id := by
  intro bound
  obtain ⟨other, pends⟩ := Option.isSome_iff_exists.mp pending
  obtain ⟨there, call, found, waits⟩ := (pendingCall?_eq_some_iff numbered.distinct).mp pends
  have inside := (List.getElem?_eq_some_iff.mp own).1
  cases (List.getElem?_inj inside numbered.distinct).mp (own.trans there.symm)
  rw [bound.not_pending sane.formed sane.manned sane.roomy settled found] at waits
  cases waits

theorem made_of_pending {request : Request} {added : List Nat} (numbered : state.Numbered asked)
    (distinct : waiting.requested.Nodup)
    (grown : waiting.requested = state.requested ++ state.added asked (.request request) ++ added)
    (onward : ∀ n ∈ added, asked + 1 ≤ n)
    (pending : (waiting.pendingCall? asked).isSome = true) :
    state.broker.reachable = true ∧
      waiting.requested[state.broker.calls.length]? = some asked := by
  cases reachable : state.broker.reachable with
  | false =>
    have none : state.added asked (.request request) = [] := by simp [State.added, reachable]
    obtain ⟨other, pends⟩ := Option.isSome_iff_exists.mp pending
    have among := List.mem_of_getElem? ((pendingCall?_eq_some_iff distinct).mp pends).1
    rw [grown, none, List.append_nil] at among
    rcases List.mem_append.mp among with old | new
    · exact absurd (numbered.early _ old) (Nat.lt_irrefl _)
    · exact absurd (onward _ new) (Nat.not_succ_le_self _)
  | true =>
    have one : state.added asked (.request request) = [asked] := if_pos reachable
    refine ⟨rfl, ?_⟩
    rw [grown, one, ← numbered.counted, List.append_assoc,
      List.getElem?_append_right (Nat.le_refl _), Nat.sub_self]
    rfl

theorem exists_lacking (heedless : Heedless backend.service settling) (sane : state.broker.Sane)
    (numbered : state.Numbered 0)
    (unfolds : state.Unfolds backend settling 0
      (before ++ .request (.collect kind id) :: between) reports waiting)
    (settled : waiting.broker.Settled backend.service)
    (pending : (waiting.pendingCall? before.length).isSome = true) :
    ∃ caller reports' waiting',
      state.Unfolds backend settling 0 (before ++ .advance 0 :: between) reports' waiting' ∧
      Lacking caller id before.length (before.length + 1 + between.length) waiting waiting' ∧
      ReportsFade id (before ++ .advance 0 :: between) reports reports' := by
  obtain ⟨_, whole⟩ := unfolds.trace heedless
  have numbered_waiting := unfolds.numbered heedless numbered
  obtain ⟨early, rest, asking, rfl, first, next⟩ := unfolds.split
  have numbered_asking := first.numbered heedless numbered
  obtain ⟨_, trace⟩ := first.trace heedless
  have sane' := sane.trace trace
  rw [Nat.zero_add] at numbered_asking next
  cases next with
  | @cons _ _ _ _ _ events broker rest takes next =>
    obtain ⟨added, grown, onward⟩ := next.requested_grow
    rw [requested_of_conclude] at grown
    obtain ⟨reachable, own⟩ :=
      made_of_pending numbered_asking numbered_waiting.distinct grown onward pending
    have unbound : ¬ waiting.broker.Bound asking.broker.calls.length id :=
      not_bound (sane.trace whole) numbered_waiting settled own pending
    obtain ⟨_, made⟩ := takes.trace heedless
    rcases exists_made heedless sane' numbered_asking reachable takes with
      bound | ⟨events', broker', takes', lacking, told⟩
    · obtain ⟨_, later⟩ := next.trace heedless
      exact absurd (bound.trace (sane'.trace made) later) unbound
    · rcases lacking.unfolds heedless next with
        ⟨_, bound⟩ | ⟨rest', waiting', unfolds', lacking', fade⟩
      · exact absurd bound unbound
      · have entries := Lacking.resolved_fades lacking.requested told
        exact ⟨_, _, waiting',
          first.append (.cons takes' unfolds') (Nat.zero_add _).symm, lacking',
          first.reportsFade_self.append
            (.cons (fun _ same => by cases same) (filter_fades entries _) fade)⟩

theorem exists_ended (heedless : Heedless backend.service settling)
    (lacking : Lacking caller id asked index waiting state')
    (settled : waiting.broker.Settled backend.service)
    (pending : (waiting.pendingCall? asked).isSome = true)
    (unfolds : waiting.Unfolds backend settling index (.dropCall asked :: later) more last) :
    ∃ more' last', state'.Unfolds backend settling index (.advance 0 :: later) more' last' ∧
      ReportsFade id (.advance 0 :: later) more more' := by
  cases unfolds with
  | cons takes next =>
    obtain ⟨givenUp, events', broker', takes', lacking', told⟩ :=
      exists_dropped heedless lacking settled pending takes
    rcases lacking'.unfolds heedless next with
      ⟨never, _⟩ | ⟨more', last', unfolds', _, fade⟩
    · exact absurd givenUp never
    · have entries := Lacking.resolved_fades lacking'.requested told
      exact ⟨_, last', .cons takes' unfolds',
        .cons (fun _ same => by cases same) (filter_fades entries _) fade⟩

end Call

/-- A request for the result of a transaction that is given up in a later step, and the steps
before, between and after. -/
structure Attempt where
  kind : Operation.Kind
  id : TransactionId
  before : List Step
  between : List Step
  later : List Step

namespace Attempt

def waiting (attempt : Attempt) : List Step :=
  attempt.before ++ .request (.collect attempt.kind attempt.id) :: attempt.between

def ending (attempt : Attempt) : List Step := .dropCall attempt.before.length :: attempt.later

def steps (attempt : Attempt) : List Step := attempt.waiting ++ attempt.ending

/-- The steps without the request and its end. Each of them is replaced by a step that does nothing,
so that the others keep their numbers. -/
def without (attempt : Attempt) : List Step :=
  attempt.before ++ .advance 0 :: (attempt.between ++ .advance 0 :: attempt.later)

end Attempt

/-- Whatever can be seen in a session where the request is pending in a settled broker before it is
given up can be seen without it. -/
def Dispensable (backend : Backend World Task) (settling : Settling World Task)
    (start : State World Task) (attempt : Attempt) : Prop :=
  ∀ reports waiting more last,
    start.Unfolds backend settling 0 attempt.waiting reports waiting →
    waiting.broker.Settled backend.service →
    (waiting.pendingCall? attempt.before.length).isSome = true →
    waiting.Unfolds backend settling attempt.waiting.length attempt.ending more last →
    ∃ reports' last', start.Unfolds backend settling 0 attempt.without reports' last' ∧
      ReportsFade attempt.id attempt.without (reports ++ more) reports'

theorem dispensable_of_heedless (heedless : Heedless backend.service settling)
    {start : State World Task} (sane : start.broker.Sane) (numbered : start.Numbered 0)
    (attempt : Attempt) :
    Dispensable backend settling start attempt := by
  obtain ⟨kind, id, before, between, later⟩ := attempt
  intro reports waiting more last unfolds settled pending onward
  obtain ⟨caller, reports', waiting', unfolds', lacking, fade⟩ :=
    exists_lacking heedless sane numbered unfolds settled pending
  have count (step : Step) :
      (before ++ step :: between).length = before.length + 1 + between.length := by
    rw [List.length_append, List.length_cons, Nat.add_comm between.length, ← Nat.add_assoc]
  rw [Attempt.waiting, count] at onward
  obtain ⟨more', last', ended, fade'⟩ := exists_ended heedless lacking settled pending onward
  have whole := unfolds'.append ended (by rw [count, Nat.zero_add])
  rw [List.append_assoc, List.cons_append] at whole
  have fades := fade.append fade'
  rw [List.append_assoc, List.cons_append] at fades
  exact ⟨_, last', whole, fades⟩

section Order

variable {service : Service World Task} {start : State World Task}

theorem settled_of_settlesInOrder (tires : service.Tires) {broker last : Broker World Task}
    {events : List Event} (paced : broker.Paced)
    (settles : SettlesInOrder service broker events last) : last.Settled service := by
  have settled := Broker.settled_settle tires paced
  rwa [settles] at settled

theorem settled_of_reacts (tires : service.Tires) {broker last : Broker World Task}
    {inputs : List Input} {events : List Event} (paced : broker.Paced)
    (settled : broker.Settled service)
    (reacts : Reacts (SettlesInOrder service) broker inputs events last) :
    last.Settled service := by
  induction reacts with
  | nil => exact settled
  | @cons broker middle _ input _ events _ settles _ ih =>
    have taken : broker.turn? service (.input input) = some (broker.receive input, []) := rfl
    have paced' := paced_step paced taken
    have drifts := (Broker.heedless_settlesInOrder tires).drifts settles
    exact ih (drifts.paced paced') (settled_of_settlesInOrder tires paced' settles)

theorem State.Unfolds.settled (tires : backend.service.Tires) {state last : State World Task}
    {index : Nat} {steps : List Step} {reports : List Report} (paced : state.broker.Paced)
    (settled : state.broker.Settled backend.service)
    (unfolds : state.Unfolds backend (SettlesInOrder backend.service) index steps reports last) :
    last.broker.Settled backend.service := by
  induction unfolds with
  | nil => exact settled
  | @cons state _ _ step _ _ _ _ takes _ ih =>
    obtain ⟨_, trace⟩ := takes.trace (Broker.heedless_settlesInOrder tires)
    refine ih (paced.trace trace) ?_
    obtain ⟨settles, reacts⟩ := takes
    obtain ⟨_, taken⟩ := prepared_taken backend state step
    have paced' := paced_step paced taken
    have drifts := (Broker.heedless_settlesInOrder tires).drifts settles
    exact settled_of_reacts tires (drifts.paced paced')
      (settled_of_settlesInOrder tires paced' settles) reacts

theorem step_idle_of_settled {state : State World Task}
    (settled : state.broker.Settled backend.service) (index : Nat) :
    (state.step backend index (.advance 0)).1.broker = state.broker ∧
      (state.step backend index (.advance 0)).1.requested = state.requested ∧
      (state.step backend index (.advance 0)).2.result = .nothing ∧
      (state.step backend index (.advance 0)).2.resolved = [] := by
  have still : state.broker.settle backend.service = (state.broker, []) :=
    Broker.settleWithin_of_settled settled _
  have unanswered : responses state.requested [] = [] := by simp [responses]
  simp only [State.step, State.prepared, still, State.inputs, List.replicate_zero, reactAll,
    State.conclude, List.append_nil, unanswered]
  exact ⟨trivial, trivial, rfl, rfl⟩

end Order

/-- What it means for a session that an attempt to get a result is given up: nothing is lost. -/
structure LosesNothing (backend : Backend World Task) (start : State World Task)
    (attempt : Attempt) : Prop where
  /-- The participants move in any order, and the next step need not wait for them. -/
  drifting : Dispensable backend (Drifts backend.service) start attempt
  /-- They move in any order until all of them are blocked. -/
  settling : backend.service.Tires → Dispensable backend (Settles backend.service) start attempt
  ordered : backend.service.Tires →
    ((start.arrive backend 0 attempt.waiting).pendingCall? attempt.before.length).isSome = true →
      ReportsFade attempt.id attempt.without (start.play backend 0 attempt.steps)
        (start.play backend 0 attempt.without)
  idle : backend.service.Tires → ∀ steps index,
    ((start.arrive backend 0 steps).step backend index (.advance 0)).1.broker =
        (start.arrive backend 0 steps).broker ∧
      ((start.arrive backend 0 steps).step backend index (.advance 0)).1.requested =
        (start.arrive backend 0 steps).requested ∧
      ((start.arrive backend 0 steps).step backend index (.advance 0)).2.result = .nothing ∧
      ((start.arrive backend 0 steps).step backend index (.advance 0)).2.resolved = []

theorem losesNothing_of_sane {start : State World Task} (sane : start.broker.Sane)
    (settled : backend.service.Tires → start.broker.Settled backend.service)
    (numbered : start.Numbered 0) (attempt : Attempt) : LosesNothing backend start attempt := by
  have arrives (tires : backend.service.Tires) (steps : List Step) :
      (start.arrive backend 0 steps).broker.Settled backend.service :=
    (start.unfolds_play backend 0 steps).settled tires sane.paced (settled tires)
  refine ⟨?drifting, fun tires => ?settling, fun tires pending => ?ordered,
    fun tires steps index => ?idle⟩
  case drifting => exact dispensable_of_heedless (Broker.heedless_drifts _) sane numbered attempt
  case settling =>
    exact dispensable_of_heedless (Broker.heedless_settles tires) sane numbered attempt
  case ordered =>
    have first := start.unfolds_play backend 0 attempt.waiting
    have next := (start.arrive backend 0 attempt.waiting).unfolds_play backend
      attempt.waiting.length attempt.ending
    obtain ⟨reports', last', unfolds, fade⟩ :=
      dispensable_of_heedless (Broker.heedless_settlesInOrder tires) sane numbered attempt _ _ _ _
        first (arrives tires _) pending next
    rw [(first.append next (Nat.zero_add _).symm).eq_play.1, unfolds.eq_play.1] at fade
    exact fade
  case idle => exact step_idle_of_settled (arrives tires steps) index

section Opening

variable {config : Config}

theorem sane_startDispatcher (backend : Backend World Task) (valid : config.validate = .ok config)
    (origin : Timestamp) (world : World) (thrownAway : List TransactionId) :
    (Broker.fresh config origin world thrownAway : Broker World Task).startDispatcher.Sane where
  formed := by
    have started : (Broker.fresh config origin world thrownAway).turn? backend.service
        (.input .startDispatcher) =
          some ((Broker.fresh config origin world thrownAway).startDispatcher, []) := rfl
    exact (Broker.WellFormed.fresh config origin world thrownAway).step started
  ascending := .nil
  manned := .inl ⟨_, rfl⟩
  paced limited := by
    obtain ⟨ttl, limit⟩ := Option.isSome_iff_exists.mp limited
    exact Config.sweepInterval_pos valid limit
  roomy := (Config.usable_of_validate valid).1

/-- No session of a running broker loses anything when a call for a result is given up. -/
theorem losesNothing_of_session (valid : config.validate = .ok config) (origin : Timestamp)
    (world : World) (thrownAway : List TransactionId) (attempt : Attempt) :
    LosesNothing backend (opening backend config origin world thrownAway) attempt := by
  have sane := sane_startDispatcher backend valid origin world thrownAway
  have settles : SettlesInOrder backend.service
      (Broker.fresh config origin world thrownAway).startDispatcher _
      (opening backend config origin world thrownAway).broker := rfl
  have drifts : Drifts backend.service (Broker.fresh config origin world thrownAway).startDispatcher
      _ (opening backend config origin world thrownAway).broker :=
    (Broker.chain_settleWithin ..).drifts Broker.GoesNext.fires
  have numbered : (opening backend config origin world thrownAway).Numbered 0 :=
    ⟨drifts.count_eq.symm, nofun, .nil⟩
  obtain ⟨_, trace⟩ := drifts.trace
  exact losesNothing_of_sane (sane.trace trace)
    (fun tires => settled_of_settlesInOrder tires sane.paced settles) numbered attempt

end Opening

def waitingRoom : Backend Scripted.World Scripted.Phase :=
  scripted [(1, { acts := [.gate "ready"] })]

def departure : Attempt where
  kind := .listInstances
  id := 1
  before := [.request (.initiate .listInstances)]
  between := [.request .listTransactions, .request (.collect .listInstances 1)]
  later := [.release "ready"]

theorem losesNothing_departure : ∃ start : State Scripted.World Scripted.Phase,
    start = opening waitingRoom {} ⟨0, 0⟩ {} [] ∧
    play waitingRoom {} ⟨0, 0⟩ {} false [] departure.steps =
      .ok (start.play waitingRoom 0 departure.steps) ∧
    Config.validate {} = .ok {} ∧ waitingRoom.service.Tires ∧
    (start.arrive waitingRoom 0 departure.waiting).pendingCall? 1 = some 1 ∧
    (start.play waitingRoom 0 departure.steps).map (·.resolved) =
      [[], [], [], [], [], [(3, .answer (.instances []))]] ∧
    (start.play waitingRoom 0 departure.without).map (·.resolved) =
      [[], [], [], [], [], [(3, .answer (.instances []))]] ∧
    ((start.play waitingRoom 0 departure.steps)[2]?).map (·.result) =
      some (.response
        (.answer (.transactions [⟨1, .listInstances, .valueReady, ⟨0, 0⟩⟩]))) ∧
    ((start.play waitingRoom 0 departure.without)[2]?).map (·.result) =
      some (.response (.answer (.transactions [⟨1, .listInstances, .pending, ⟨0, 0⟩⟩]))) ∧
    LosesNothing waitingRoom start departure := by
  have valid : Config.validate {} = .ok {} := rfl
  refine ⟨opening waitingRoom {} ⟨0, 0⟩ {} [], rfl, play_eq valid .., valid,
    Scripted.Scripts.tires _, ?pending, ?resolved, ?resolved', ?listed, ?listed', ?nothing⟩
  case pending => decide +kernel
  case resolved => decide +kernel
  case resolved' => decide +kernel
  case listed => decide +kernel
  case listed' => decide +kernel
  case nothing => exact losesNothing_of_session valid ..

end Session

end InstanceBroker
