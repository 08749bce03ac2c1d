import InstanceBroker.Proofs.Isolation.Session

namespace InstanceBroker.Session

open Broker (Settling Settles SettlesInOrder Reacts Oblivious)

variable {World Task : Type} {backend : Backend World Task} {id : TransactionId}
  {wipe : World → World} {settling : Settling World Task}

/-- Two reports on a step say the same besides the transaction: how a request that spares it was
answered in its own step, which earlier ones were answered now, and what was noted for others. -/
structure Report.Alike (id : TransactionId) (steps : List Step) (index : Nat)
    (report report' : Report) : Prop where
  result : asks id steps index = true → report'.result = report.result
  resolved : ∀ step, asks id steps step = true →
    report'.resolved.filter (·.1 = step) = report.resolved.filter (·.1 = step)
  notes : ∀ other, other ≠ id →
    report'.notes.filter (·.1 = other) = report.notes.filter (·.1 = other)

inductive ReportsAlike (id : TransactionId) (steps : List Step) :
    Nat → List Report → List Report → Prop
  | nil {index : Nat} : ReportsAlike id steps index [] []
  | cons {index : Nat} {report report' : Report} {reports reports' : List Report}
      (alike : Report.Alike id steps index report report')
      (later : ReportsAlike id steps (index + 1) reports reports') :
      ReportsAlike id steps index (report :: reports) (report' :: reports')

theorem ReportsAlike.symm {steps steps' : List Step} (same : asks id steps' = asks id steps)
    {index : Nat} {reports reports' : List Report}
    (alike : ReportsAlike id steps' index reports' reports) :
    ReportsAlike id steps index reports reports' := by
  induction alike with
  | nil => exact .nil
  | cons alike _ ih =>
    refine .cons ⟨fun asked => ?_, fun step asked => ?_, fun other apart => ?_⟩ ih
    · exact (alike.result (by rw [same, asked])).symm
    · exact (alike.resolved step (by rw [same, asked])).symm
    · exact (alike.notes other apart).symm

section Entries

variable {Value : Type} {entries entries' : List (Nat × Value)} {n : Nat}

theorem lookup_filter (entries : List (Nat × Value)) (n : Nat) :
    (entries.filter (·.1 = n)).lookup n = entries.lookup n := by
  induction entries with
  | nil => rfl
  | cons entry entries ih =>
    obtain ⟨number, value⟩ := entry
    by_cases here : number = n
    · simp [here]
    · have elsewhere : (n == number) = false := by simpa using Ne.symm here
      simp [List.lookup_cons, here, elsewhere, ih]

theorem lookup_congr (same : entries'.filter (·.1 = n) = entries.filter (·.1 = n)) :
    entries'.lookup n = entries.lookup n := by
  rw [← lookup_filter, same, lookup_filter]

theorem filter_drop_congr {begun begun' : List (Nat × Value)} (grown : begun <+: entries)
    (grown' : begun' <+: entries') (before : begun'.filter (·.1 = n) = begun.filter (·.1 = n))
    (after : entries'.filter (·.1 = n) = entries.filter (·.1 = n)) :
    (entries'.drop begun'.length).filter (·.1 = n) =
      (entries.drop begun.length).filter (·.1 = n) := by
  obtain ⟨added, rfl⟩ := grown
  obtain ⟨added', rfl⟩ := grown'
  rw [List.filter_append, List.filter_append, before] at after
  rw [List.drop_left, List.drop_left]
  exact List.append_cancel_left after

end Entries

theorem cons_of_drop {steps rest : List Step} {index : Nat} {step : Step}
    (ahead : step :: rest = steps.drop index) :
    steps[index]? = some step ∧ rest = steps.drop (index + 1) := by
  have first := congrArg (·[0]?) ahead
  exact ⟨by simpa using first.symm, by rw [← List.tail_drop, ← ahead, List.tail_cons]⟩

theorem request_of_asks {steps : List Step} {index : Nat} {step : Step}
    (here : steps[index]? = some step) (asked : asks id steps index = true) :
    ∃ request, step = .request request ∧ request.spares id = true := by
  simp only [asks, here] at asked
  cases step with
  | request request => exact ⟨request, rfl, asked⟩
  | _ => cases asked

namespace Abreast

variable {state state' : State World Task} {steps steps' : List Step} {index : Nat}
  {step step' : Step} {events events' : List Event} {broker broker' : Broker World Task}

theorem responses_eq (oblivious : Oblivious backend.service id wipe settling)
    (separates : backend.Separates id wipe)
    (abreast : Abreast backend id wipe steps steps' index state state')
    (here : steps[index]? = some step) (here' : steps'[index]? = some step')
    (takes : state.Takes backend settling step events broker)
    (takes' : state'.Takes backend settling step' events' broker')
    (seen : broker'.besides id wipe = broker.besides id wipe)
    (answered : broker'.answersBesides id events' = broker.answersBesides id events) {n : Nat}
    (asked : asks id steps n = true) :
    (responses (state'.conclude backend index step' broker' events').1.requested events').filter
        (·.1 = n) =
      (responses (state.conclude backend index step broker events).1.requested events).filter
        (·.1 = n) := by
  have onward := abreast.next oblivious separates here here' takes takes' seen
  have asked' : asks id steps' n = true := by rw [abreast.asks_eq, asked]
  rw [filter_responses (onward.follows.spares_eq id) events asked,
    filter_responses (onward.follows'.spares_eq id) events' asked', abreast.asks_eq,
    onward.alike.requested]
  exact congrArg (fun given => (respond _ given).filter _) answered

theorem notes_eq (oblivious : Oblivious backend.service id wipe settling)
    (separates : backend.Separates id wipe)
    (abreast : Abreast backend id wipe steps steps' index state state')
    (here : steps[index]? = some step) (here' : steps'[index]? = some step')
    (takes : state.Takes backend settling step events broker)
    (takes' : state'.Takes backend settling step' events' broker')
    (seen : broker'.besides id wipe = broker.besides id wipe) {other : TransactionId}
    (apart : other ≠ id) :
    ((backend.notes broker'.world).drop state'.reported).filter (·.1 = other) =
      ((backend.notes broker.world).drop state.reported).filter (·.1 = other) := by
  have noted {first second : Broker World Task}
      (seen : second.besides id wipe = first.besides id wipe) :
      (backend.notes second.world).filter (·.1 = other) =
        (backend.notes first.world).filter (·.1 = other) := by
    have worlds := congrArg Broker.world seen
    rw [Broker.world_besides, Broker.world_besides] at worlds
    rw [← separates.notes _ other apart, worlds, separates.notes _ other apart]
  have open_ := Step.ne_dropApi abreast.open_ here
  have open' := Step.ne_dropApi abreast.open' here'
  rw [abreast.follows.noted, abreast.follows'.noted]
  exact filter_drop_congr (notes_of_step oblivious separates abreast.follows open_ takes)
    (notes_of_step oblivious separates abreast.follows' open' takes') (noted abreast.alike.broker)
    (noted seen)

theorem report_alike (oblivious : Oblivious backend.service id wipe settling)
    (separates : backend.Separates id wipe)
    (abreast : Abreast backend id wipe steps steps' index state state')
    (here : steps[index]? = some step) (here' : steps'[index]? = some step')
    (takes : state.Takes backend settling step events broker)
    (takes' : state'.Takes backend settling step' events' broker')
    (seen : broker'.besides id wipe = broker.besides id wipe)
    (answered : broker'.answersBesides id events' = broker.answersBesides id events) :
    Report.Alike id steps index (state.conclude backend index step broker events).2
      (state'.conclude backend index step' broker' events').2 where
  result asked := by
    have found := lookup_congr
      (abreast.responses_eq oblivious separates here here' takes takes' seen answered asked)
    obtain ⟨request, rfl, spares⟩ := request_of_asks here asked
    have equal : step' = .request request :=
      Step.eq_of_without (abreast.without_eq here here') spares nofun
    subst equal
    simp only [State.conclude, State.result, abreast.follows.steady.reachable,
      abreast.follows'.steady.reachable] at found ⊢
    simp only [found]
  resolved n asked := by
    have found :=
      abreast.responses_eq oblivious separates here here' takes takes' seen answered asked
    have swapped (entries : List (Nat × Response)) :
        (entries.filter (·.1 ≠ index)).filter (·.1 = n) =
          (entries.filter (·.1 = n)).filter (·.1 ≠ index) := by
      rw [List.filter_filter, List.filter_filter]
      simp only [Bool.and_comm]
    exact (swapped _).trans ((congrArg _ found).trans (swapped _).symm)
  notes other apart := by
    have noted := abreast.notes_eq oblivious separates here here' takes takes' seen apart
    simp only [State.conclude]
    rw [filter_mergeSort, filter_mergeSort, noted]

/-- However the one session goes on, the other one can go on alike. -/
theorem unfolds (oblivious : Oblivious backend.service id wipe settling)
    (separates : backend.Separates id wipe)
    (abreast : Abreast backend id wipe steps steps' index state state') {rest : List Step}
    (ahead : rest = steps.drop index) {reports : List Report} {last : State World Task}
    (unfolds : state.Unfolds backend settling index rest reports last) :
    ∃ reports' last', state'.Unfolds backend settling index (steps'.drop index) reports' last' ∧
      ReportsAlike id steps index reports reports' ∧
      last'.broker.besides id wipe = last.broker.besides id wipe := by
  have lengths := congrArg List.length abreast.same
  rw [List.length_map, List.length_map] at lengths
  -- Along the one session; the state of the other one goes with it.
  induction unfolds generalizing state' with
  | nil =>
    have ended : steps'.drop _ = [] :=
      List.drop_eq_nil_iff.mpr (lengths ▸ List.drop_eq_nil_iff.mp ahead.symm)
    rw [ended]
    exact ⟨_, _, .nil, .nil, abreast.alike.broker⟩
  | @cons state last index step rest events broker reports takes _ ih =>
    obtain ⟨here, later⟩ := cons_of_drop ahead
    have inside' : index < steps'.length := lengths ▸ (List.getElem?_eq_some_iff.mp here).1
    have here' := List.getElem?_eq_getElem inside'
    obtain ⟨events', broker', takes', seen, answered⟩ :=
      abreast.takes oblivious separates here here' takes
    obtain ⟨reports', last', unfolds', alike, seen'⟩ :=
      ih (abreast.next oblivious separates here here' takes takes' seen) later
    rw [List.drop_eq_getElem_cons inside']
    exact ⟨_, last', .cons takes' unfolds',
      .cons (abreast.report_alike oblivious separates here here' takes takes' seen answered) alike,
      seen'⟩

end Abreast

section Onward

variable {state last : State World Task} {steps : List Step} {index : Nat}

theorem State.Unfolds.follows (oblivious : Oblivious backend.service id wipe settling)
    (separates : backend.Separates id wipe) (open_ : .dropApi ∉ steps)
    (follows : state.Follows backend steps index) {rest : List Step}
    (ahead : rest = steps.drop index)
    {reports : List Report} (unfolds : state.Unfolds backend settling index rest reports last) :
    last.Follows backend steps (index + rest.length) := by
  induction unfolds with
  | nil => exact follows
  | @cons state last index step rest events broker reports takes _ ih =>
    obtain ⟨here, later⟩ := cons_of_drop ahead
    have onward :=
      ih (follows.next oblivious separates here (Step.ne_dropApi open_ here) takes) later
    rwa [Nat.add_right_comm, Nat.add_assoc] at onward

theorem reacts_anyOrder {service : Service World Task} {broker after : Broker World Task}
    {inputs : List Input} {events : List Event} (oblivious : Oblivious service id wipe settling)
    (steady : broker.Steady) (open_ : .close ∉ inputs)
    (reacts : Reacts settling broker inputs events after) :
    Reacts (Settles service) broker inputs events after := by
  induction reacts with
  | nil => exact .nil
  | cons settles _ ih =>
    simp only [List.mem_cons, not_or] at open_
    have started := steady.input service (Ne.symm open_.1)
    have settles := oblivious.settles started settles
    exact .cons settles (ih (settles.steady started) open_.2)

theorem State.Unfolds.anyOrder (oblivious : Oblivious backend.service id wipe settling)
    (separates : backend.Separates id wipe) (open_ : .dropApi ∉ steps)
    (follows : state.Follows backend steps index) {rest : List Step}
    (ahead : rest = steps.drop index)
    {reports : List Report} (unfolds : state.Unfolds backend settling index rest reports last) :
    state.Unfolds backend (Settles backend.service) index rest reports last := by
  induction unfolds with
  | nil => exact .nil
  | @cons state last index step rest events broker reports takes _ ih =>
    obtain ⟨here, later⟩ := cons_of_drop ahead
    have unclosed := Step.ne_dropApi open_ here
    refine .cons ?_ (ih (follows.next oblivious separates here unclosed takes) later)
    obtain ⟨settles, reacts⟩ := takes
    have steady := follows.steady_prepared step
    have settles := oblivious.settles steady settles
    exact .intro settles
      (reacts_anyOrder oblivious (settles.steady steady) (follows.not_close unclosed) reacts)

theorem State.Follows.step_idle (follows : state.Follows backend steps index) (n : Nat) :
    state.step backend n (.advance 0) = (state, { result := .nothing }) := by
  have still : state.broker.settle backend.service = (state.broker, []) :=
    Broker.settleWithin_of_settled follows.settled _
  have reported : (backend.notes state.broker.world).drop state.reported = [] := by
    rw [follows.noted, List.drop_length]
  have unanswered : responses state.requested [] = [] := by simp [responses]
  simp only [State.step, State.prepared, still, State.inputs, List.replicate_zero, reactAll,
    State.conclude, reported, List.append_nil, unanswered, List.mergeSort_nil, List.any_nil,
    Bool.and_false]
  rfl

end Onward

def State.arrive (backend : Backend World Task) (state : State World Task) (index : Nat) :
    List Step → State World Task
  | [] => state
  | step :: rest => (state.step backend index step).1.arrive backend (index + 1) rest

section Order

variable {service : Service World Task} {broker last : Broker World Task} {events : List Event}

theorem reacts_reactAll (service : Service World Task) (broker : Broker World Task)
    (inputs : List Input) :
    Reacts (SettlesInOrder service) broker inputs (reactAll service broker inputs).2
      (reactAll service broker inputs).1 := by
  induction inputs generalizing broker with
  | nil => exact .nil
  | cons input inputs ih => exact .cons rfl (ih _)

theorem reactAll_of_reacts {inputs : List Input}
    (reacts : Reacts (SettlesInOrder service) broker inputs events last) :
    reactAll service broker inputs = (last, events) := by
  induction reacts with
  | nil => rfl
  | @cons broker middle _ input _ events _ settles _ ih =>
    have settled : (broker.receive input).settle service = (middle, events) := settles
    simp only [reactAll, Broker.react, settled, ih]

theorem State.unfolds_play (backend : Backend World Task) (state : State World Task) (index : Nat)
    (steps : List Step) :
    state.Unfolds backend (SettlesInOrder backend.service) index steps
      (state.play backend index steps) (state.arrive backend index steps) := by
  induction steps generalizing state index with
  | nil => exact .nil
  | cons step steps ih =>
    exact .cons (.intro rfl (reacts_reactAll backend.service _ _)) (ih _ (index + 1))

theorem State.Unfolds.eq_play {state last : State World Task} {index : Nat} {steps : List Step}
    {reports : List Report}
    (unfolds : state.Unfolds backend (SettlesInOrder backend.service) index steps reports last) :
    reports = state.play backend index steps ∧ last = state.arrive backend index steps := by
  induction unfolds with
  | nil => exact ⟨rfl, rfl⟩
  | @cons state _ index step _ events broker _ takes _ ih =>
    have taken : state.step backend index step =
      state.conclude backend index step broker events := by
      cases takes with
      | @intro first later middle _ settles reacts =>
        have settled : (state.prepared backend step).settle backend.service = (middle, first) :=
          settles
        simp only [State.step, settled, reactAll_of_reacts reacts]
    simp only [State.play, State.arrive, taken]
    exact ⟨congrArg _ ih.1, ih.2⟩

end Order

end InstanceBroker.Session
