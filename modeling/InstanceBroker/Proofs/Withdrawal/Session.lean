import InstanceBroker.Proofs.Isolation.Report
import InstanceBroker.Proofs.Withdrawal.Reaction

namespace InstanceBroker.Session

open Broker (Settling Reacts Heedless Matches)

variable {World Task : Type} {backend : Backend World Task} {id : TransactionId} {caller : CallId}
  {settling : Settling World Task}

section Responses

structure EntryFades (id : TransactionId) (entry entry' : Nat × Response) : Prop where
  step : entry'.1 = entry.1
  response : Response.Fades id entry.2 entry'.2

inductive Result.Fades (id : TransactionId) : Result → Result → Prop
  | same {result : Result} : Fades id result result
  | response {response response' : Response} (fades : Response.Fades id response response') :
      Fades id (.response response) (.response response')

variable {entries entries' : List (Nat × Response)} {requested requested' : List Nat}
  {given given' : List (CallId × Outcome)}

theorem respond_fades
    (numbers : ∀ other, other ≠ caller → requested'[skip caller other]? = requested[other]?)
    (told : List.Forall₂ (AnswerFades caller id) given given') :
    List.Forall₂ (EntryFades id) (respond requested given) (respond requested' given') := by
  induction told with
  | nil => exact .nil
  | @cons first first' given given' fades _ ih =>
    have number : requested'[first'.1]? = requested[first.1]? := by
      rw [fades.number]
      exact numbers _ fades.other
    simp only [respond, List.filterMap_cons, number]
    cases requested[first.1]? with
    | none => exact ih
    | some n => exact .cons ⟨rfl, fades.outcome.response⟩ ih

theorem mergeSort_fades (fade : List.Forall₂ (EntryFades id) entries entries') :
    List.Forall₂ (EntryFades id) (entries.mergeSort (·.1 ≤ ·.1))
      (entries'.mergeSort (·.1 ≤ ·.1)) := by
  -- Both are sorted as the pairs are in which they come.
  obtain ⟨lengths, fade⟩ := List.forall₂_iff_zip.mp fade
  have first : (entries.zip entries').map Prod.fst = entries :=
    List.map_fst_zip (Nat.le_of_eq lengths)
  have second : (entries.zip entries').map Prod.snd = entries' :=
    List.map_snd_zip (Nat.le_of_eq lengths.symm)
  have sorted : ((entries.zip entries').mergeSort (·.1.1 ≤ ·.1.1)).map Prod.fst =
      entries.mergeSort (·.1 ≤ ·.1) := by
    rw [List.map_mergeSort, first]
    exact fun _ _ _ _ => rfl
  have sorted' : ((entries.zip entries').mergeSort (·.1.1 ≤ ·.1.1)).map Prod.snd =
      entries'.mergeSort (·.1 ≤ ·.1) := by
    rw [List.map_mergeSort, second]
    intro pair among pair' among'
    rw [(fade among).step, (fade among').step]
  rw [← sorted, ← sorted', List.forall₂_map_left_iff, List.forall₂_map_right_iff,
    List.forall₂_same]
  exact fun pair among => fade (List.mem_mergeSort.mp among)

theorem filter_fades (fade : List.Forall₂ (EntryFades id) entries entries') (n : Nat) :
    List.Forall₂ (EntryFades id) (entries.filter (·.1 ≠ n))
      (entries'.filter (·.1 ≠ n)) := by
  induction fade with
  | nil => exact .nil
  | @cons entry entry' _ _ fades _ ih =>
    rw [List.filter_cons, List.filter_cons, fades.step]
    split
    · exact .cons fades ih
    · exact ih

theorem lookup_fades (fade : List.Forall₂ (EntryFades id) entries entries') (n : Nat) :
    Option.Rel (Response.Fades id) (entries.lookup n) (entries'.lookup n) := by
  induction fade with
  | nil => exact .none
  | @cons entry entry' _ _ fades _ ih =>
    obtain ⟨number, response⟩ := entry
    obtain ⟨number', response'⟩ := entry'
    obtain ⟨rfl, fades⟩ := fades
    simp only [List.lookup_cons]
    split
    · exact .some fades
    · exact ih

end Responses

section Reports

inductive ReportsFade (id : TransactionId) : List Step → List Report → List Report → Prop
  | nil : ReportsFade id [] [] []
  | cons {step : Step} {steps : List Step} {report report' : Report}
      {reports reports' : List Report}
      (result : ∀ request, step = .request request → report.result.Fades id report'.result)
      (resolved : List.Forall₂ (EntryFades id) report.resolved report'.resolved)
      (later : ReportsFade id steps reports reports') :
      ReportsFade id (step :: steps) (report :: reports) (report' :: reports')

theorem ReportsFade.append {steps later : List Step} {reports reports' more more' : List Report}
    (first : ReportsFade id steps reports reports') (next : ReportsFade id later more more') :
    ReportsFade id (steps ++ later) (reports ++ more) (reports' ++ more') := by
  induction first with
  | nil => exact next
  | cons result resolved _ ih => exact .cons result resolved ih

end Reports

section Numbers

variable {state : State World Task} {index : Nat} {step : Step} {events : List Event}
  {broker : Broker World Task}

def State.added (state : State World Task) (index : Nat) : Step → List Nat
  | .request _ => if state.broker.reachable then [index] else []
  | _ => []

structure State.Numbered (state : State World Task) (index : Nat) : Prop where
  counted : state.requested.length = state.broker.calls.length
  early : ∀ n ∈ state.requested, n < index
  distinct : state.requested.Nodup

theorem requested_of_conclude (backend : Backend World Task) (state : State World Task)
    (index : Nat) (step : Step) (broker : Broker World Task) (events : List Event) :
    (state.conclude backend index step broker events).1.requested =
      state.requested ++ state.added index step := by
  cases step with
  | request request =>
    simp only [State.conclude, State.added]
    split <;> simp
  | _ => exact (List.append_nil _).symm

theorem idxOf?_eq_some_iff {numbers : List Nat} (distinct : numbers.Nodup) {n place : Nat} :
    numbers.idxOf? n = some place ↔ numbers[place]? = some n := by
  rw [List.idxOf?_eq_some_iff, List.getElem?_eq_some_iff]
  constructor
  · rintro ⟨inside, there, _⟩
    exact ⟨inside, there⟩
  · rintro ⟨inside, there⟩
    refine ⟨inside, there, fun other before same => ?_⟩
    exact Nat.ne_of_lt before ((List.Nodup.getElem_inj_iff distinct).mp (same.trans there.symm))

theorem pendingCall?_eq_some_iff (distinct : state.requested.Nodup) {n : Nat} :
    state.pendingCall? n = some caller ↔ state.requested[caller]? = some n ∧
      ∃ call, state.broker.calls[caller]? = some call ∧ call.isPending = true := by
  rw [State.pendingCall?, Option.filter_eq_some_iff, idxOf?_eq_some_iff distinct,
    Option.any_eq_true]

theorem prepared_taken (backend : Backend World Task) (state : State World Task) (step : Step) :
    ∃ world, state.broker.turn? backend.service (.world world) =
      some (state.prepared backend step, []) := by
  cases step <;> exact ⟨_, rfl⟩

theorem prepared_calls (backend : Backend World Task) (state : State World Task) (step : Step) :
    (state.prepared backend step).calls = state.broker.calls ∧
      (state.prepared backend step).reachable = state.broker.reachable := by
  cases step <;> exact ⟨rfl, rfl⟩

theorem unasked_of_step (step : Step) (other : ∀ request, step ≠ .request request) :
    ∀ input ∈ state.inputs step, input.request? = none := by
  intro input among
  cases step with
  | request request => exact absurd rfl (other request)
  | advance millis =>
    rw [List.eq_of_mem_replicate among]
    rfl
  | shutdown | dropApi =>
    cases List.mem_singleton.mp among
    rfl
  | run | dropDispatcher =>
    simp only [State.inputs] at among
    split at among
    · cases List.mem_singleton.mp among
      rfl
    · cases among
  | dropCall n =>
    obtain ⟨call, _, rfl⟩ := List.mem_map.mp among
    rfl
  | queued | release | has => cases among

section Onward

variable (heedless : Heedless backend.service settling)
  (takes : state.Takes backend settling step events broker)
include heedless takes

theorem State.Takes.trace : ∃ moments, Trace backend.service state.broker moments broker := by
  obtain ⟨settles, reacts⟩ := takes
  obtain ⟨_, taken⟩ := prepared_taken backend state step
  obtain ⟨_, first⟩ := (heedless.drifts settles).trace
  obtain ⟨_, later⟩ := reacts.trace heedless
  exact ⟨_, ((Trace.single taken).append first).append later⟩

theorem State.Takes.count_eq (index : Nat) :
    broker.calls.length = state.broker.calls.length + (state.added index step).length := by
  cases takes with
  | @intro first later middle _ settles reacts =>
    obtain ⟨calls, reachable⟩ := prepared_calls backend state step
    have drifts := heedless.drifts settles
    have count : middle.calls.length = state.broker.calls.length := by rw [drifts.count_eq, calls]
    have reach : middle.reachable = state.broker.reachable := drifts.reachable_eq.trans reachable
    by_cases asks : ∃ request, step = .request request
    · obtain ⟨request, rfl⟩ := asks
      cases reacts with
      | cons settles rest =>
        cases rest
        rw [(heedless.drifts settles).count_eq, State.added, ← count, ← reach]
        simp only [Broker.receive]
        split <;> simp
    · have other : ∀ request, step ≠ .request request :=
        fun request same => asks ⟨request, same⟩
      have none : state.added index step = [] := by
        cases step with
        | request request => exact absurd rfl (other request)
        | _ => rfl
      rw [reacts.count_eq heedless (unasked_of_step step other), none]
      exact count

end Onward

theorem State.Unfolds.trace (heedless : Heedless backend.service settling) {steps : List Step}
    {reports : List Report} {last : State World Task}
    (unfolds : state.Unfolds backend settling index steps reports last) :
    ∃ moments, Trace backend.service state.broker moments last.broker := by
  induction unfolds with
  | nil => exact ⟨_, .nil⟩
  | cons takes _ ih =>
    obtain ⟨_, first⟩ := takes.trace heedless
    obtain ⟨_, later⟩ := ih
    exact ⟨_, first.append later⟩

theorem State.Numbered.next (numbered : state.Numbered index)
    (count : broker.calls.length = state.broker.calls.length + (state.added index step).length) :
    (state.conclude backend index step broker events).1.Numbered (index + 1) := by
  have added : state.added index step = [] ∨ state.added index step = [index] := by
    cases step with
    | request request =>
      simp only [State.added]
      split
      · exact .inr rfl
      · exact .inl rfl
    | _ => exact .inl rfl
  refine ⟨?counted, ?early, ?distinct⟩ <;> rw [requested_of_conclude]
  case counted => rw [List.length_append, numbered.counted]; exact count.symm
  case early =>
    intro n among
    rcases List.mem_append.mp among with old | new
    · exact Nat.lt_succ_of_lt (numbered.early n old)
    · rcases added with none | one
      · rw [none] at new
        cases new
      · rw [one] at new
        cases List.mem_singleton.mp new
        exact Nat.lt_succ_self index
  case distinct =>
    rcases added with none | one
    · rw [none, List.append_nil]
      exact numbered.distinct
    · rw [one]
      refine List.nodup_append.mpr ⟨numbered.distinct, by simp, ?_⟩
      rintro n old m new rfl
      cases List.mem_singleton.mp new
      exact Nat.lt_irrefl _ (numbered.early _ old)

end Numbers

/-- Two sessions before the same step. The second one lacks the call that the first one made in the
step that was asked. -/
structure Lacking (caller : CallId) (id : TransactionId) (asked index : Nat)
    (state state' : State World Task) : Prop where
  brokers : state.broker.Alongside caller id state'.broker
  manual : state'.manual = state.manual
  requested : state'.requested = state.requested.eraseIdx caller
  own : state.requested[caller]? = some asked
  numbered : state.Numbered index

namespace Lacking

variable {state state' : State World Task} {asked index : Nat}

theorem reachable_eq (lacking : Lacking caller id asked index state state') :
    state'.broker.reachable = state.broker.reachable := by
  rcases lacking.brokers.beside with without | ceased
  · obtain ⟨queue, table, calls, same⟩ := without.frame
    rw [same]
  · have silent := ceased.silent
    simp only [Broker.hasSenders, Bool.or_eq_false_iff] at silent
    rw [ceased.unreachable, silent.1]

theorem number (lacking : Lacking caller id asked index state state') {other : CallId}
    (apart : other ≠ caller) :
    state'.requested[skip caller other]? = state.requested[other]? := by
  rw [lacking.requested]
  exact getElem?_eraseIdx_skip state.requested apart

theorem distinct' (lacking : Lacking caller id asked index state state') :
    state'.requested.Nodup := by
  rw [lacking.requested]
  exact lacking.numbered.distinct.sublist (List.eraseIdx_sublist ..)

theorem pendingCall?_self (lacking : Lacking caller id asked index state state') {other : CallId}
    (pending : state.pendingCall? asked = some other) : other = caller := by
  obtain ⟨there, _⟩ := (pendingCall?_eq_some_iff lacking.numbered.distinct).mp pending
  have inside := (List.getElem?_eq_some_iff.mp lacking.own).1
  have twice := lacking.own.trans there.symm
  exact ((List.getElem?_inj inside lacking.numbered.distinct).mp twice).symm

theorem pendingCall?_lost (lacking : Lacking caller id asked index state state') :
    state'.pendingCall? asked = none := by
  refine Option.eq_none_iff_forall_not_mem.mpr fun place pending => ?_
  obtain ⟨there, _⟩ := (pendingCall?_eq_some_iff lacking.distinct').mp pending
  obtain ⟨other, apart, rfl⟩ := exists_skip caller place
  rw [lacking.number apart] at there
  have inside := (List.getElem?_eq_some_iff.mp lacking.own).1
  exact apart ((List.getElem?_inj inside lacking.numbered.distinct).mp
    (lacking.own.trans there.symm)).symm

theorem pendingCall?_eq (lacking : Lacking caller id asked index state state') {n : Nat}
    (apart : n ≠ asked) : state'.pendingCall? n = (state.pendingCall? n).map (skip caller) := by
  have other_of {other : CallId} (there : state.requested[other]? = some n) : other ≠ caller := by
    rintro rfl
    exact apart (Option.some.inj (there.symm.trans lacking.own))
  rcases lacking.brokers.beside with without | ceased
  · refine Option.ext fun place => ?_
    rw [pendingCall?_eq_some_iff lacking.distinct', Option.map_eq_some_iff]
    constructor
    · rintro ⟨there, call', found', pending⟩
      obtain ⟨other, ne, rfl⟩ := exists_skip caller place
      obtain ⟨call, found, fades⟩ := exists_of_rel' (without.others other ne) found'
      refine ⟨other, (pendingCall?_eq_some_iff lacking.numbered.distinct).mpr
        ⟨lacking.number ne ▸ there, call, found, fades.isPending_eq ▸ pending⟩, rfl⟩
    · rintro ⟨other, pends, rfl⟩
      obtain ⟨there, call, found, pending⟩ :=
        (pendingCall?_eq_some_iff lacking.numbered.distinct).mp pends
      obtain ⟨call', found', fades⟩ :=
        exists_of_rel (without.others other (other_of there)) found
      exact ⟨(lacking.number (other_of there)).trans there, call', found',
        fades.isPending_eq.trans pending⟩
  · -- Nobody is left who could be dropped.
    have none : state.pendingCall? n = none := by
      refine Option.eq_none_iff_forall_not_mem.mpr fun other pends => ?_
      obtain ⟨there, call, found, pending⟩ :=
        (pendingCall?_eq_some_iff lacking.numbered.distinct).mp pends
      rw [ceased.done other (other_of there) call found] at pending
      cases pending
    have none' : state'.pendingCall? n = Option.none := by
      refine Option.eq_none_iff_forall_not_mem.mpr fun other pends => ?_
      obtain ⟨_, call, found, pending⟩ := (pendingCall?_eq_some_iff lacking.distinct').mp pends
      have silent := ceased.silent
      simp only [Broker.hasSenders, Bool.or_eq_false_iff, List.any_eq_false] at silent
      exact absurd pending (silent.2 call (List.mem_of_getElem? found))
    rw [none, none']
    rfl

theorem inputs_eq (lacking : Lacking caller id asked index state state') (step : Step) :
    state'.inputs step = (state.inputs step).map (·.renamed (skip caller)) ∧
        .abandon caller ∉ state.inputs step ∨
      ∃ call, state.broker.calls[caller]? = some call ∧ call.isPending = true ∧
        state.inputs step = [.abandon caller] := by
  cases step with
  | request | advance | shutdown | dropApi | queued | release | has =>
    exact .inl (by simp [State.inputs, Input.renamed])
  | run | dropDispatcher =>
    left
    simp only [State.inputs, lacking.manual]
    split <;> simp [Input.renamed]
  | dropCall n =>
    by_cases own : n = asked
    · subst own
      cases pends : state.pendingCall? n with
      | none => exact .inl (by simp [State.inputs, pends, lacking.pendingCall?_lost])
      | some other =>
        cases lacking.pendingCall?_self pends
        obtain ⟨_, call, found, pending⟩ :=
          (pendingCall?_eq_some_iff lacking.numbered.distinct).mp pends
        exact .inr ⟨call, found, pending, by simp [State.inputs, pends]⟩
    · left
      simp only [State.inputs, lacking.pendingCall?_eq own]
      cases pends : state.pendingCall? n with
      | none => simp
      | some other =>
        have there := ((pendingCall?_eq_some_iff lacking.numbered.distinct).mp pends).1
        have ne : other ≠ caller := by
          rintro rfl
          exact own (Option.some.inj (there.symm.trans lacking.own))
        simpa [Input.renamed] using Ne.symm ne

theorem prepared (lacking : Lacking caller id asked index state state')
    (backend : Backend World Task) (step : Step) :
    (state.prepared backend step).Alongside caller id (state'.prepared backend step) := by
  cases step with
  | release gate => exact lacking.brokers.withWorld backend.service (backend.release gate)
  | _ => exact lacking.brokers

theorem takes (heedless : Heedless backend.service settling)
    (lacking : Lacking caller id asked index state state') {step : Step} {events : List Event}
    {broker : Broker World Task} (takes : state.Takes backend settling step events broker) :
    Matches caller id state.broker events broker (state'.Takes backend settling step) := by
  cases takes with
  | @intro first later middle _ settles reacts =>
    have sane := lacking.brokers.sane
    obtain ⟨_, taken⟩ := prepared_taken backend state step
    have drifts := heedless.drifts settles
    obtain ⟨_, settled⟩ := drifts.trace
    have onward := reacts.trace heedless
    have arrive := (Trace.single taken).append settled
    rcases lacking.inputs_eq step with ⟨same, spared⟩ | ⟨call, found, pending, ends⟩
    · have entry : Matches caller id state.broker [] (state.prepared backend step)
          fun events' bare => events' = [] ∧ bare = state'.prepared backend step :=
        .inr ⟨_, _, ⟨rfl, rfl⟩, lacking.prepared backend step, .nil⟩
      have first : Matches caller id state.broker ([] ++ first) middle
          (settling (state'.prepared backend step)) :=
        .append sane ⟨_, .single taken⟩ ⟨_, settled⟩ entry
          (fun _ beside => heedless.beside beside settles) fun _ _ _ _ same settles' => by
            obtain ⟨rfl, rfl⟩ := same
            exact settles'
      refine first.append sane ⟨_, arrive⟩ onward
        (fun _ beside => reacts.beside heedless beside spared) fun _ _ _ _ settles' reacts' => ?_
      rw [← same] at reacts'
      exact .intro settles' reacts'
    · -- The call was given up without having to wait any longer.
      left
      refine ⟨fun givenUp => ?_, ?_⟩
      · obtain ⟨⟨_, there⟩, _⟩ := givenUp
        cases found.symm.trans there
        cases pending
      · rw [ends] at reacts
        cases reacts with
        | cons settles rest =>
          cases rest
          have inside : caller < middle.calls.length := by
            rw [drifts.count_eq, (prepared_calls backend state step).1]
            exact (List.getElem?_eq_some_iff.mp found).1
          have received : middle.turn? backend.service (.input (.abandon caller)) =
              some (middle.abandon caller, []) := rfl
          have sane' := (sane.trace arrive).step received
          obtain ⟨_, trace⟩ := (heedless.drifts settles).trace
          exact (Broker.bound_of_abandon (List.getElem?_eq_getElem inside)).trace sane' trace

section Reports

variable {step step' : Step} {events events' : List Event} {broker broker' : Broker World Task}

theorem resolved_fades {numbers numbers' : List Nat} (lost : numbers' = numbers.eraseIdx caller)
    (told : List.Forall₂ (AnswerFades caller id) (answers events) (answers events')) :
    List.Forall₂ (EntryFades id) (responses numbers events) (responses numbers' events') := by
  rw [respond_answers, respond_answers]
  refine mergeSort_fades (respond_fades (fun other apart => ?_) told)
  rw [lost]
  exact getElem?_eraseIdx_skip numbers apart

theorem result_fades (backend : Backend World Task)
    (lacking : Lacking caller id asked index state state')
    {entries entries' : List (Nat × Response)}
    (fade : List.Forall₂ (EntryFades id) entries entries') (broker broker' : Broker World Task)
    (request : Request) :
    (state.result backend broker entries index (.request request)).Fades id
      (state'.result backend broker' entries' index (.request request)) := by
  simp only [State.result, lacking.reachable_eq]
  split
  · exact .same
  · have found := lookup_fades fade index
    cases first : entries.lookup index with
    | none =>
      rw [none_of_rel found first]
      exact .same
    | some response =>
      obtain ⟨response', second, fades⟩ := exists_of_rel found first
      rw [second]
      exact .response fades

theorem added_eq (lacking : Lacking caller id asked index state state') (step : Step) :
    state'.added index step = state.added index step := by
  cases step with
  | request => simp only [State.added, lacking.reachable_eq]
  | _ => rfl

theorem next (backend : Backend World Task)
    (lacking : Lacking caller id asked index state state')
    (count : broker.calls.length = state.broker.calls.length + (state.added index step).length)
    (added : state'.added index step' = state.added index step)
    (beside : broker.Alongside caller id broker') (events events' : List Event) :
    Lacking caller id asked (index + 1) (state.conclude backend index step broker events).1
      (state'.conclude backend index step' broker' events').1 := by
  have inside := (List.getElem?_eq_some_iff.mp lacking.own).1
  refine ⟨beside, lacking.manual, ?_, ?_, lacking.numbered.next count⟩
  · rw [requested_of_conclude, requested_of_conclude, added, lacking.requested,
      List.eraseIdx_append_of_lt_length inside]
  · rw [requested_of_conclude, List.getElem?_append_left inside]
    exact lacking.own

end Reports

/-- However the one session goes on, the other one can go on alike. -/
theorem unfolds (heedless : Heedless backend.service settling)
    (lacking : Lacking caller id asked index state state') {steps : List Step}
    {reports : List Report} {last : State World Task}
    (unfolds : state.Unfolds backend settling index steps reports last) :
    (¬ state.broker.GivenUp caller ∧ last.broker.Bound caller id) ∨
      ∃ reports' last', state'.Unfolds backend settling index steps reports' last' ∧
        Lacking caller id asked (index + steps.length) last last' ∧
        ReportsFade id steps reports reports' := by
  induction unfolds generalizing state' with
  | nil => exact .inr ⟨_, _, .nil, lacking, .nil⟩
  | @cons state last index step steps events broker reports takes unfolds ih =>
    have sane := lacking.brokers.sane
    obtain ⟨_, trace⟩ := takes.trace heedless
    rcases lacking.takes heedless takes with
      ⟨never, bound⟩ | ⟨events', broker', takes', beside, told⟩
    · have sane' := sane.trace trace
      obtain ⟨_, onward⟩ := unfolds.trace heedless
      exact .inl ⟨never, bound.trace sane' onward⟩
    · have onward := lacking.next backend (takes.count_eq heedless index)
        (lacking.added_eq step) beside events events'
      rcases ih onward with ⟨never, bound⟩ | ⟨reports', last', unfolds', arrived, fade⟩
      · exact .inl ⟨fun givenUp => never (givenUp.trace trace), bound⟩
      · have entries := resolved_fades onward.requested told
        refine .inr ⟨_, last', .cons takes' unfolds', ?_,
          .cons ?_ (filter_fades entries index) fade⟩
        · rw [List.length_cons, Nat.add_comm steps.length, ← Nat.add_assoc]
          exact arrived
        · rintro request rfl
          exact lacking.result_fades backend entries broker broker' request

end Lacking

end InstanceBroker.Session
