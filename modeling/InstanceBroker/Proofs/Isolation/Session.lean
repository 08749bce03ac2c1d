import InstanceBroker.Proofs.Isolation.Reaction
import InstanceBroker.Session

namespace InstanceBroker.Session

open Broker (Settling Settles Reacts Oblivious Corresponds)

variable {World Task : Type} {backend : Backend World Task} {id : TransactionId}
  {wipe : World → World} {settling : Settling World Task}

def Step.spares (id : TransactionId) : Step → Bool
  | .request asked => asked.spares id
  | _ => true

def Step.request? : Step → Option Request
  | .request asked => some asked
  | _ => none

/-- The step, or one that does nothing in place of a request that does not spare the transaction. -/
def Step.without (id : TransactionId) (step : Step) : Step :=
  if step.spares id then step else .advance 0

def asks (id : TransactionId) (steps : List Step) (n : Nat) : Bool :=
  match steps[n]? with
  | some (.request request) => request.spares id
  | _ => false

structure Backend.Separates (backend : Backend World Task) (id : TransactionId)
    (wipe : World → World) : Prop where
  service : backend.service.Separates id wipe
  release : ∀ gate world, wipe (backend.release gate (wipe world)) =
    wipe (backend.release gate world)
  notes : ∀ world other, other ≠ id →
    (backend.notes (wipe world)).filter (·.1 = other) = (backend.notes world).filter (·.1 = other)
  released : ∀ gate world, backend.notes world <+: backend.notes (backend.release gate world)
  proceeded : ∀ context operation world task next world',
    backend.service.step context operation world task = .proceed world' next →
      backend.notes world <+: backend.notes world'
  finished : ∀ context operation world task outcome world',
    backend.service.step context operation world task = .finish world' outcome →
      backend.notes world <+: backend.notes world'

inductive State.Takes (backend : Backend World Task) (settling : Settling World Task)
    (state : State World Task) (step : Step) : List Event → Broker World Task → Prop
  | intro {first later : List Event} {middle broker : Broker World Task}
      (settles : settling (state.prepared backend step) first middle)
      (reacts : Reacts settling middle (state.inputs step) later broker) :
      Takes backend settling state step (first ++ later) broker

/-- A session whose broker settles in this way: the reports on the steps and the state at the
end. -/
inductive State.Unfolds (backend : Backend World Task) (settling : Settling World Task) :
    State World Task → Nat → List Step → List Report → State World Task → Prop
  | nil {state : State World Task} {index : Nat} : Unfolds backend settling state index [] [] state
  | cons {state last : State World Task} {index : Nat} {step : Step} {steps : List Step}
      {events : List Event} {broker : Broker World Task} {reports : List Report}
      (takes : state.Takes backend settling step events broker)
      (unfolds : Unfolds backend settling (state.conclude backend index step broker events).1
        (index + 1) steps reports last) :
      Unfolds backend settling state index (step :: steps)
        ((state.conclude backend index step broker events).2 :: reports) last

section Steps

variable {steps steps' : List Step}

theorem Step.without_of_spares {step : Step} (spares : step.spares id = true) :
    step.without id = step := if_pos spares

theorem Step.without_of_not_spares {step : Step} (lost : step.spares id = false) :
    step.without id = .advance 0 := by rw [without, lost]; rfl

theorem Step.without_without (step : Step) : (step.without id).without id = step.without id := by
  cases spares : step.spares id with
  | true => rw [without_of_spares spares, without_of_spares spares]
  | false => rw [without_of_not_spares spares]; rfl

theorem Step.request_of_not_spares {step : Step} (lost : step.spares id = false) :
    ∃ request, step = .request request ∧ request.spares id = false := by
  cases step with
  | request request => exact ⟨request, rfl, lost⟩
  | _ => cases lost

theorem asks_map_without (steps : List Step) (n : Nat) :
    asks id (steps.map (·.without id)) n = asks id steps n := by
  simp only [asks, List.getElem?_map]
  cases steps[n]? with
  | none => rfl
  | some step =>
    cases spares : step.spares id with
    | true => simp only [Option.map_some, Step.without_of_spares spares]
    | false =>
      obtain ⟨request, rfl, lost⟩ := Step.request_of_not_spares spares
      simp only [Option.map_some, Step.without_of_not_spares spares, lost]

theorem asks_congr (same : steps'.map (·.without id) = steps.map (·.without id)) :
    asks id steps' = asks id steps := by
  funext n
  rw [← asks_map_without, same, asks_map_without]

theorem Step.cases_of_without {step step' : Step} (same : step'.without id = step.without id) :
    step' = step ∨
      (step = .advance 0 ∨ step.spares id = false) ∧
        (step' = .advance 0 ∨ step'.spares id = false) := by
  cases spares : step.spares id with
  | true =>
    rw [without_of_spares spares] at same
    cases spares' : step'.spares id with
    | true => exact .inl ((without_of_spares spares').symm.trans same)
    | false =>
      rw [without_of_not_spares spares'] at same
      exact .inr ⟨.inl same.symm, .inr rfl⟩
  | false =>
    rw [without_of_not_spares spares] at same
    cases spares' : step'.spares id with
    | true => exact .inr ⟨.inr rfl, .inl ((without_of_spares spares').symm.trans same)⟩
    | false => exact .inr ⟨.inr rfl, .inr rfl⟩

theorem Step.eq_of_without {step step' : Step} (same : step'.without id = step.without id)
    (spares : step.spares id = true) (busy : step ≠ .advance 0) : step' = step := by
  rcases cases_of_without same with equal | ⟨idle | lost, _⟩
  · exact equal
  · exact absurd idle busy
  · exact absurd (spares.symm.trans lost) nofun

theorem Step.ne_dropApi {step : Step} {n : Nat} (open_ : .dropApi ∉ steps)
    (here : steps[n]? = some step) : step ≠ .dropApi :=
  fun closing => open_ (closing ▸ List.mem_of_getElem? here)

end Steps

section Sorting

variable {Value : Type}

theorem filter_mergeSort (entries : List (Nat × Value)) (n : Nat) :
    (entries.mergeSort (·.1 ≤ ·.1)).filter (·.1 = n) = entries.filter (·.1 = n) := by
  have numbered {entry : Nat × Value} (among : entry ∈ entries.filter (·.1 = n)) :
      entry.1 = n := by
    simpa using (List.mem_filter.mp among).2
  have alike : (entries.filter (·.1 = n)).Pairwise
      fun first second => decide (first.1 ≤ second.1) = true :=
    List.pairwise_of_forall_mem_list fun first among second among' => by
      simp [numbered among, numbered among']
  -- To sort is stable: what is in order already is found again in this order.
  have kept : (entries.filter (·.1 = n)).Sublist (entries.mergeSort (·.1 ≤ ·.1)) := by
    refine List.sublist_mergeSort (fun first second third before after => ?_)
      (fun first second => ?_) alike List.filter_sublist
    · simp only [decide_eq_true_eq] at before after ⊢
      exact Nat.le_trans before after
    · simpa using Nat.le_total first.1 second.1
  have found := kept.filter fun entry => decide (entry.1 = n)
  simp only [List.filter_filter, Bool.and_self] at found
  exact (found.eq_of_length ((List.mergeSort_perm entries _).filter _).length_eq.symm).symm

end Sorting

section Responses

variable {steps : List Step} {broker : Broker World Task} {requested : List Nat}

def respond (requested : List Nat) (given : List (CallId × Outcome)) : List (Nat × Response) :=
  given.filterMap fun answer => requested[answer.1]?.map (·, .ofOutcome answer.2)

theorem respond_answers (requested : List Nat) (events : List Event) :
    responses requested events =
      (respond requested (answers events)).mergeSort (·.1 ≤ ·.1) := by
  simp only [responses, respond, answers, List.filterMap_filterMap]
  congr 1
  refine congrArg (List.filterMap · events) (funext fun event => ?_)
  cases event <;> rfl

theorem filter_respond (requested : List Nat) (given : List (CallId × Outcome)) (step : Nat) :
    (respond requested given).filter (·.1 = step) = given.filterMap fun answer =>
      (requested[answer.1]?.filter (· = step)).map (·, .ofOutcome answer.2) := by
  rw [respond, List.filter_filterMap]
  refine congrArg (List.filterMap · given) (funext fun answer => ?_)
  cases requested[answer.1]? with
  | none => rfl
  | some n => by_cases here : n = step <;> simp [Option.filter, here]

theorem getElem?_spared (spared : requested.map (asks id steps) = broker.calls.map (·.spares id))
    (caller : CallId) :
    (requested[caller]?).map (asks id steps) = (broker.calls[caller]?).map (·.spares id) := by
  rw [← List.getElem?_map, ← List.getElem?_map, spared]

theorem number_besides (spared : requested.map (asks id steps) = broker.calls.map (·.spares id))
    {step : Nat} (asked : asks id steps step = true) (caller : CallId) :
    requested[caller]?.filter (· = step) =
      if (broker.calls[caller]?).any (·.spares id) then
        (requested.filter (asks id steps))[broker.place id caller]?.filter (· = step)
      else none := by
  have known := getElem?_spared spared caller
  cases number : requested[caller]? with
  | none =>
    rw [number] at known
    rw [Option.map_eq_none_iff.mp known.symm]
    rfl
  | some n =>
    rw [number] at known
    obtain ⟨call, found, fair⟩ := Option.map_eq_some_iff.mp known.symm
    rw [found, Option.any_some]
    cases spares : call.spares id with
    | true =>
      have there := Kept.getElem?_place number (fair.symm.trans spares)
      rw [Kept.place_congr spared] at there
      rw [if_pos rfl, Broker.place, there]
    | false =>
      have other : n ≠ step := by
        rintro rfl
        rw [spares, asked] at fair
        cases fair
      simp [other]

theorem filter_responses
    (spared : requested.map (asks id steps) = broker.calls.map (·.spares id)) (events : List Event)
    {step : Nat} (asked : asks id steps step = true) :
    (responses requested events).filter (·.1 = step) =
      (respond (requested.filter (asks id steps)) (broker.answersBesides id events)).filter
        (·.1 = step) := by
  rw [respond_answers, filter_mergeSort, filter_respond, filter_respond, Broker.answersBesides,
    List.filterMap_map, List.filterMap_filter]
  refine congrArg (List.filterMap · (answers events)) (funext fun answer => ?_)
  rw [number_besides spared asked]
  split <;> rfl

end Responses

structure State.Follows (state : State World Task) (backend : Backend World Task)
    (steps : List Step) (index : Nat) : Prop where
  automatic : state.manual = false
  steady : state.broker.Steady
  settled : state.broker.Settled backend.service
  idle : state.broker.queue = []
  asked : state.requested.map (steps[·]?) =
    state.broker.requests.map fun request => some (.request request)
  early : ∀ step ∈ state.requested, step < index
  distinct : state.requested.Nodup
  noted : state.reported = (backend.notes state.broker.world).length

/-- Two sessions look the same besides the transaction. -/
structure State.Alike (id : TransactionId) (wipe : World → World) (steps : List Step)
    (state state' : State World Task) : Prop where
  broker : state'.broker.besides id wipe = state.broker.besides id wipe
  requested : state'.requested.filter (asks id steps) = state.requested.filter (asks id steps)

namespace State.Follows

variable {state : State World Task} {steps : List Step} {index : Nat}

theorem spares_eq (follows : state.Follows backend steps index) (id : TransactionId) :
    state.requested.map (asks id steps) = state.broker.calls.map (·.spares id) := by
  have asked := congrArg (List.map fun step : Option Step =>
    match step with
    | some (.request request) => request.spares id
    | _ => false) follows.asked
  simp only [Broker.requests, List.map_map] at asked
  exact asked

theorem place_eq (follows : state.Follows backend steps index) (id : TransactionId) (n : Nat) :
    Kept.place (asks id steps) state.requested n = state.broker.place id n :=
  Kept.place_congr (follows.spares_eq id) n

theorem called (follows : state.Follows backend steps index) (id : TransactionId) {caller : CallId}
    {n : Nat} (number : state.requested[caller]? = some n) :
    ∃ call, state.broker.calls[caller]? = some call ∧ call.spares id = asks id steps n := by
  have known := getElem?_spared (follows.spares_eq id) caller
  rw [number] at known
  exact Option.map_eq_some_iff.mp known.symm

theorem number_of_idxOf? {n : Nat} {caller : CallId}
    (found : state.requested.idxOf? n = some caller) :
    state.requested[caller]? = some n := by
  obtain ⟨inside, there, _⟩ := List.idxOf?_eq_some_iff.mp found
  exact List.getElem?_eq_some_iff.mpr ⟨inside, there⟩

theorem idxOf?_of_number (follows : state.Follows backend steps index) {n : Nat} {caller : CallId}
    (number : state.requested[caller]? = some n) : state.requested.idxOf? n = some caller := by
  obtain ⟨inside, there⟩ := List.getElem?_eq_some_iff.mp number
  refine List.idxOf?_eq_some_iff.mpr ⟨inside, there, fun other before equal => ?_⟩
  have twice : state.requested[other]? = state.requested[caller]? := by
    rw [number, List.getElem?_eq_some_iff]
    exact ⟨Nat.lt_trans before inside, equal⟩
  exact Nat.ne_of_lt before
    ((List.getElem?_inj (Nat.lt_trans before inside) follows.distinct).mp twice)

theorem unseen_dropCall (follows : state.Follows backend steps index) {n : Nat}
    (lost : asks id steps n = false) :
    state.broker.Unseen id wipe (state.inputs (.dropCall n)) := by
  simp only [State.inputs]
  cases pending : state.pendingCall? n with
  | none => exact .inl rfl
  | some caller =>
    obtain ⟨found, _⟩ := Option.filter_eq_some_iff.mp pending
    obtain ⟨call, there, spares⟩ := follows.called id (number_of_idxOf? found)
    refine .inr ⟨_, rfl, nofun, Broker.besides_abandon_lost fun other there' => ?_⟩
    cases there.symm.trans there'
    exact spares.trans lost

theorem unseen_of_lost (follows : state.Follows backend steps index) {step : Step}
    (lost : step = .advance 0 ∨ step.spares id = false) :
    state.broker.Unseen id wipe (state.inputs step) := by
  rcases lost with rfl | lost
  · exact .inl rfl
  · obtain ⟨request, rfl, unfair⟩ := Step.request_of_not_spares lost
    refine .inr ⟨_, rfl, nofun, ?_⟩
    rw [Broker.besides_request follows.steady follows.idle, unfair, Broker.besides_frame]
    simp

theorem prepared_of_not_release {step : Step} (still : ∀ gate, step ≠ .release gate) :
    state.prepared backend step = state.broker := by
  cases step with
  | release gate => exact absurd rfl (still gate)
  | _ => rfl

theorem steady_prepared (follows : state.Follows backend steps index) (step : Step) :
    (state.prepared backend step).Steady := by
  cases step with
  | release gate =>
    have taken : state.broker.turn? backend.service
        (.world (backend.release gate state.broker.world)) =
          some (state.prepared backend (.release gate), []) := rfl
    have steady := follows.steady
    exact ⟨steady.formed.step taken, steady.reachable, steady.unswept, steady.roomy,
      steady.running⟩
  | _ => exact follows.steady

theorem prepared_frame (backend : Backend World Task) (state : State World Task) (step : Step) :
    (state.prepared backend step).requests = state.broker.requests ∧
      (state.prepared backend step).queue = state.broker.queue := by
  cases step <;> exact ⟨rfl, rfl⟩

theorem not_close (follows : state.Follows backend steps index) {step : Step}
    (open_ : step ≠ .dropApi) : .close ∉ state.inputs step := by
  cases step with
  | dropApi => exact absurd rfl open_
  | advance millis => simp [State.inputs]
  | dropCall n => simp [State.inputs]
  | run | dropDispatcher => simp [State.inputs, follows.automatic]
  | request | shutdown | queued | release | has => simp [State.inputs]

end State.Follows

section Notes

variable {broker after last : Broker World Task} {events : List Event}

theorem notes_of_fire? (separates : backend.Separates id wipe) {move : Move}
    (fired : broker.fire? backend.service move = some (after, events)) :
    backend.notes broker.world <+: backend.notes after.world := by
  have taken : broker.turn? backend.service (.move move) = some (after, events) := fired
  have unchanged {later : Broker World Task} (same : later.world = broker.world) :
      backend.notes broker.world <+: backend.notes later.world := same ▸ List.prefix_refl _
  -- Nobody but the runs has to do with the service.
  cases Broker.turns_of_turn? taken with
  | dispatched _ dispatches =>
    cases dispatches with
    | stopped => exact unchanged (by rw [Broker.stop_frame])
    | handled _ _ handles => exact unchanged (by rw [handles.frame])
    | swept => exact unchanged (by rw [Broker.sweep_frame])
  | advanced _ advances =>
    rw [(Broker.advanced_frame ..).1]
    cases advances with
    | proceeded _ demand => exact separates.proceeded _ _ _ _ _ _ demand
    | dropped _ demand | finished _ demand => exact separates.finished _ _ _ _ _ _ demand
    | _ => exact List.prefix_refl _
  | progressed => exact unchanged (by rw [(Broker.moved_frame ..).1])

theorem notes_of_settles (separates : backend.Separates id wipe)
    (settles : Settles backend.service broker events last) :
    backend.notes broker.world <+: backend.notes last.world := by
  induction settles with
  | still => exact List.prefix_refl _
  | moved fired _ ih => exact (notes_of_fire? separates fired).trans ih

theorem notes_of_reacts (oblivious : Oblivious backend.service id wipe settling)
    (separates : backend.Separates id wipe) (steady : broker.Steady) {inputs : List Input}
    (open_ : .close ∉ inputs) (reacts : Reacts settling broker inputs events last) :
    backend.notes broker.world <+: backend.notes last.world := by
  induction reacts with
  | nil => exact List.prefix_refl _
  | @cons broker _ _ input _ _ _ settles _ ih =>
    simp only [List.mem_cons, not_or] at open_
    have started := steady.input backend.service (Ne.symm open_.1)
    have settles := oblivious.settles started settles
    have grown := notes_of_settles separates settles
    rw [broker.receive_frame] at grown
    exact grown.trans (ih (settles.steady started) open_.2)

end Notes

section Next

variable {state : State World Task} {steps : List Step} {index : Nat} {step : Step}
  {events : List Event} {broker : Broker World Task}

theorem notes_of_step (oblivious : Oblivious backend.service id wipe settling)
    (separates : backend.Separates id wipe) (follows : state.Follows backend steps index)
    (open_ : step ≠ .dropApi) (takes : state.Takes backend settling step events broker) :
    backend.notes state.broker.world <+: backend.notes broker.world := by
  obtain ⟨settles, reacts⟩ := takes
  have steady := follows.steady_prepared step
  have settles := oblivious.settles steady settles
  have opened : backend.notes state.broker.world <+:
      backend.notes (state.prepared backend step).world := by
    cases step with
    | release gate => exact separates.released gate _
    | _ => exact List.prefix_refl _
  exact opened.trans ((notes_of_settles separates settles).trans
    (notes_of_reacts oblivious separates (settles.steady steady) (follows.not_close open_) reacts))

theorem requests_of_step (oblivious : Oblivious backend.service id wipe settling)
    (follows : state.Follows backend steps index) (open_ : step ≠ .dropApi)
    (takes : state.Takes backend settling step events broker) :
    broker.requests = state.broker.requests ++ (state.inputs step).filterMap Input.request? := by
  obtain ⟨settles, reacts⟩ := takes
  have steady := follows.steady_prepared step
  have settles := oblivious.settles steady settles
  rw [reacts.requests_eq oblivious (settles.steady steady) (follows.not_close open_),
    settles.requests_eq, (State.Follows.prepared_frame ..).1]

theorem requests_inputs (state : State World Task) (step : Step) :
    (state.inputs step).filterMap Input.request? = step.request?.toList := by
  cases step with
  | advance millis => simp [State.inputs, Input.request?, Step.request?, List.filterMap_replicate]
  | run | dropDispatcher =>
    simp only [State.inputs]
    split <;> rfl
  | dropCall n =>
    simp only [State.inputs]
    cases state.pendingCall? n <;> rfl
  | request | shutdown | queued | release | has | dropApi => rfl

theorem requested_conclude (follows : state.Follows backend steps index) (events : List Event) :
    (state.conclude backend index step broker events).1.requested =
      state.requested ++ step.request?.toList.map fun _ => index := by
  cases step with
  | request request => simp [State.conclude, follows.steady.reachable, Step.request?]
  | _ => exact (List.append_nil _).symm

theorem State.Follows.next (oblivious : Oblivious backend.service id wipe settling)
    (separates : backend.Separates id wipe) (follows : state.Follows backend steps index)
    (here : steps[index]? = some step) (open_ : step ≠ .dropApi)
    (takes : state.Takes backend settling step events broker) :
    (state.conclude backend index step broker events).1.Follows backend steps (index + 1) := by
  have grown := (notes_of_step oblivious separates follows open_ takes).length_le
  have requests := requests_of_step oblivious follows open_ takes
  rw [requests_inputs] at requests
  have requested := @requested_conclude _ _ _ _ _ _ step broker follows events
  obtain ⟨settles, reacts⟩ := takes
  have steady := follows.steady_prepared step
  have settled := oblivious.settles steady settles
  have idle := settled.idle steady ((State.Follows.prepared_frame ..).2.trans follows.idle)
  obtain ⟨steady', settled', idle'⟩ :=
    reacts.kept oblivious (settled.steady steady) settled.settled
    idle (follows.not_close open_)
  refine ⟨follows.automatic, steady', settled', idle', ?asked, ?early, ?distinct, ?noted⟩
  case asked =>
    have now : (step.request?.toList.map fun _ => index).map (steps[·]?) =
        step.request?.toList.map fun request => some (.request request) := by
      cases step with
      | request request => simp [Step.request?, here]
      | _ => rfl
    rw [requested, List.map_append, follows.asked, now, ← List.map_append]
    exact congrArg _ requests.symm
  case early =>
    intro n among
    rw [requested] at among
    rcases List.mem_append.mp among with old | new
    · exact Nat.lt_succ_of_lt (follows.early n old)
    · obtain ⟨_, _, rfl⟩ := List.mem_map.mp new
      exact Nat.lt_succ_self _
  case distinct =>
    rw [requested]
    cases step with
    | request request =>
      -- All numbers before this one are smaller.
      refine List.nodup_append.mpr ⟨follows.distinct, by simp [Step.request?], ?_⟩
      rintro n old m new rfl
      simp only [Step.request?, Option.toList_some, List.map_cons, List.map_nil,
        List.mem_singleton] at new
      exact Nat.lt_irrefl _ (new ▸ follows.early n old)
    | _ => exact (List.append_nil _).symm ▸ follows.distinct
  case noted =>
    simp only [State.conclude, List.length_drop]
    rw [follows.noted]
    omega

end Next

structure Abreast (backend : Backend World Task) (id : TransactionId) (wipe : World → World)
    (steps steps' : List Step) (index : Nat) (state state' : State World Task) : Prop where
  alike : state.Alike id wipe steps state'
  follows : state.Follows backend steps index
  follows' : state'.Follows backend steps' index
  same : steps'.map (·.without id) = steps.map (·.without id)
  open_ : .dropApi ∉ steps

namespace Abreast

variable {state state' : State World Task} {steps steps' : List Step} {index : Nat}

theorem asks_eq (abreast : Abreast backend id wipe steps steps' index state state') :
    asks id steps' = asks id steps := asks_congr abreast.same

theorem without_eq (abreast : Abreast backend id wipe steps steps' index state state') {n : Nat}
    {step step' : Step} (here : steps[n]? = some step) (here' : steps'[n]? = some step') :
    step'.without id = step.without id := by
  have same := congrArg (·[n]?) abreast.same
  simpa only [List.getElem?_map, here, here', Option.map_some, Option.some.injEq] using same

theorem open' (abreast : Abreast backend id wipe steps steps' index state state') :
    .dropApi ∉ steps' := by
  intro closing
  obtain ⟨n, here'⟩ := List.getElem?_of_mem closing
  have inside : n < steps.length := by
    have lengths := congrArg List.length abreast.same
    rw [List.length_map, List.length_map] at lengths
    exact lengths ▸ (List.getElem?_eq_some_iff.mp here').1
  have here := List.getElem?_eq_getElem inside
  have same := Step.eq_of_without (abreast.without_eq here here').symm rfl nofun
  exact Step.ne_dropApi abreast.open_ here same

theorem symm (abreast : Abreast backend id wipe steps steps' index state state') :
    Abreast backend id wipe steps' steps index state' state where
  alike := ⟨abreast.alike.broker.symm, by rw [abreast.asks_eq, abreast.alike.requested]⟩
  follows := abreast.follows'
  follows' := abreast.follows
  same := abreast.same.symm
  open_ := abreast.open'

theorem call (abreast : Abreast backend id wipe steps steps' index state state') {n : Nat}
    (asked : asks id steps n = true) {caller : CallId}
    (number : state.requested.idxOf? n = some caller) :
    ∃ caller' call, state'.requested.idxOf? n = some caller' ∧
      state.broker.calls[caller]? = some call ∧ state'.broker.calls[caller']? = some call ∧
      call.spares id = true ∧ state'.broker.place id caller' = state.broker.place id caller := by
  have there := State.Follows.number_of_idxOf? number
  have kept := Kept.getElem?_place there asked
  rw [abreast.follows.place_eq, ← abreast.alike.requested, ← abreast.asks_eq] at kept
  obtain ⟨caller', there', asked', place⟩ := Kept.exists_place kept
  rw [abreast.follows'.place_eq] at place
  obtain ⟨call, found, spares⟩ := abreast.follows.called id there
  obtain ⟨call', found', spares'⟩ := abreast.follows'.called id there'
  have seen := @Broker.calls_besides _ _ state.broker id wipe _ _ found (spares.trans asked)
  have seen' := @Broker.calls_besides _ _ state'.broker id wipe _ _ found' (spares'.trans asked')
  rw [abreast.alike.broker, place] at seen'
  cases seen.symm.trans seen'
  exact ⟨caller', call, abreast.follows'.idxOf?_of_number there', found, found',
    spares.trans asked, place⟩

theorem corresponds_dropCall (abreast : Abreast backend id wipe steps steps' index state state')
    (n : Nat) :
    Corresponds state.broker state'.broker id wipe (state.inputs (.dropCall n))
      (state'.inputs (.dropCall n)) := by
  cases asked : asks id steps n with
  | false =>
    have asked' : asks id steps' n = false := by rw [abreast.asks_eq, asked]
    exact .unseen (abreast.follows.unseen_dropCall asked) (abreast.follows'.unseen_dropCall asked')
  | true =>
    cases number : state.requested.idxOf? n with
    | none =>
      have number' : state'.requested.idxOf? n = none := by
        cases number' : state'.requested.idxOf? n with
        | none => rfl
        | some caller' =>
          have asked' : asks id steps' n = true := by rw [abreast.asks_eq, asked]
          obtain ⟨caller, _, there, _⟩ := abreast.symm.call asked' number'
          rw [number] at there
          cases there
      refine .unseen (.inl ?_) (.inl ?_)
      · simp [State.inputs, State.pendingCall?, number]
      · simp [State.inputs, State.pendingCall?, number']
    | some caller =>
      obtain ⟨caller', call, number', found, found', spares, place⟩ := abreast.call asked number
      cases pending : call.isPending with
      | false =>
        refine .unseen (.inl ?_) (.inl ?_)
        · simp [State.inputs, State.pendingCall?, number, found, pending]
        · simp [State.inputs, State.pendingCall?, number', found', pending]
      | true =>
        have inputs : state.inputs (.dropCall n) = [.abandon caller] := by
          simp [State.inputs, State.pendingCall?, number, found, pending]
        have inputs' : state'.inputs (.dropCall n) = [.abandon caller'] := by
          simp [State.inputs, State.pendingCall?, number', found', pending]
        rw [inputs, inputs']
        refine .single nofun nofun ?_
        rw [Broker.besides_abandon found spares, Broker.besides_abandon found' spares, place,
          abreast.alike.broker]

theorem corresponds_inputs (abreast : Abreast backend id wipe steps steps' index state state')
    {step step' : Step} (here : steps[index]? = some step) (here' : steps'[index]? = some step') :
    Corresponds state.broker state'.broker id wipe (state.inputs step) (state'.inputs step') := by
  have ⟨alike, follows, follows', _, open_⟩ := abreast
  rcases Step.cases_of_without (abreast.without_eq here here') with rfl | ⟨lost, lost'⟩
  · cases step' with
    | request request =>
      refine .single nofun nofun ?_
      rw [Broker.besides_request follows.steady follows.idle,
        Broker.besides_request follows'.steady follows'.idle, alike.broker]
    | advance millis => exact .ticks millis
    | shutdown =>
      refine .single nofun nofun ?_
      rw [Broker.besides_shutdown, Broker.besides_shutdown, alike.broker]
    | run | dropDispatcher =>
      simp only [State.inputs, follows.automatic, follows'.automatic, Bool.false_eq_true, if_false]
      exact .unseen (.inl rfl) (.inl rfl)
    | dropApi => exact absurd rfl (Step.ne_dropApi open_ here)
    | dropCall n => exact abreast.corresponds_dropCall n
    | queued | release | has => exact .unseen (.inl rfl) (.inl rfl)
  · exact .unseen (follows.unseen_of_lost lost) (follows'.unseen_of_lost lost')

theorem besides_release (separates : backend.Separates id wipe)
    (abreast : Abreast backend id wipe steps steps' index state state') (gate : String) :
    (state'.prepared backend (.release gate)).besides id wipe =
      (state.prepared backend (.release gate)).besides id wipe := by
  have worlds := congrArg Broker.world abreast.alike.broker
  rw [Broker.world_besides, Broker.world_besides] at worlds
  have opened : wipe (backend.release gate state'.broker.world) =
      wipe (backend.release gate state.broker.world) := by
    rw [← separates.release, worlds, separates.release]
  have left := @Broker.besides_withWorld _ _ state'.broker id wipe
    (backend.release gate state'.broker.world)
  have right := @Broker.besides_withWorld _ _ state.broker id wipe
    (backend.release gate state.broker.world)
  rw [abreast.alike.broker, opened] at left
  exact left.trans right.symm

theorem takes (oblivious : Oblivious backend.service id wipe settling)
    (separates : backend.Separates id wipe)
    (abreast : Abreast backend id wipe steps steps' index state state') {step step' : Step}
    (here : steps[index]? = some step) (here' : steps'[index]? = some step') {events : List Event}
    {broker : Broker World Task} (takes : state.Takes backend settling step events broker) :
    ∃ events' broker', state'.Takes backend settling step' events' broker' ∧
      broker'.besides id wipe = broker.besides id wipe ∧
      broker'.answersBesides id events' = broker.answersBesides id events := by
  have ⟨alike, follows, follows', _, _⟩ := abreast
  have same := abreast.without_eq here here'
  obtain ⟨settles, reacts⟩ := takes
  -- Only a gate that opens is found by a broker that has yet to settle.
  by_cases opens : ∃ gate, step = .release gate
  · obtain ⟨gate, rfl⟩ := opens
    have equal : step' = .release gate := Step.eq_of_without same rfl nofun
    subst equal
    cases reacts
    have steady := follows.steady_prepared (.release gate)
    have steady' := follows'.steady_prepared (.release gate)
    obtain ⟨first', last', settles', seen, answered⟩ := oblivious.besides settles steady steady'
      (Broker.unburdened_of_idle follows'.idle) (abreast.besides_release separates gate)
    have requests := (oblivious.settles steady settles).requests_eq
    have requests' := (oblivious.settles steady' settles').requests_eq
    refine ⟨_, last', .intro settles' .nil, seen, ?_⟩
    rw [List.append_nil, List.append_nil, Broker.answersBesides_congr requests,
      Broker.answersBesides_congr requests', answered]
  · have still (gate : String) : step ≠ .release gate := fun equal => opens ⟨gate, equal⟩
    have still' (gate : String) : step' ≠ .release gate := by
      rintro rfl
      exact still gate (Step.eq_of_without same.symm rfl nofun)
    rw [State.Follows.prepared_of_not_release still] at settles
    obtain ⟨rfl, rfl⟩ := (oblivious.settles follows.steady settles).of_settled follows.settled
    obtain ⟨later', broker', reacts', seen, answered⟩ := reacts.besides oblivious follows.steady
      follows'.steady follows.settled follows'.settled follows.idle follows'.idle alike.broker
      (abreast.corresponds_inputs here here')
    have quiet : settling (state'.prepared backend step') [] state'.broker := by
      rw [State.Follows.prepared_of_not_release still']
      exact oblivious.still follows'.settled
    exact ⟨_, broker', .intro quiet reacts', seen, answered⟩

theorem filter_number_of_lost {step : Step} (here : steps[index]? = some step)
    (lost : step = .advance 0 ∨ step.spares id = false) :
    (step.request?.toList.map fun _ => index).filter (asks id steps) = [] := by
  rcases lost with rfl | lost
  · rfl
  · obtain ⟨request, rfl, unfair⟩ := Step.request_of_not_spares lost
    have unasked : asks id steps index = false := by simp only [asks, here, unfair]
    simp [Step.request?, unasked]

theorem requested_eq (abreast : Abreast backend id wipe steps steps' index state state')
    {step step' : Step} (here : steps[index]? = some step) (here' : steps'[index]? = some step')
    (broker broker' : Broker World Task) (events events' : List Event) :
    (state'.conclude backend index step' broker' events').1.requested.filter (asks id steps) =
      (state.conclude backend index step broker events).1.requested.filter (asks id steps) := by
  rw [requested_conclude abreast.follows', requested_conclude abreast.follows, List.filter_append,
    List.filter_append, abreast.alike.requested]
  rcases Step.cases_of_without (abreast.without_eq here here') with rfl | ⟨lost, lost'⟩
  · rfl
  · have none := filter_number_of_lost here lost
    have none' := filter_number_of_lost here' lost'
    rw [abreast.asks_eq] at none'
    rw [none, none']

theorem next (oblivious : Oblivious backend.service id wipe settling)
    (separates : backend.Separates id wipe)
    (abreast : Abreast backend id wipe steps steps' index state state') {step step' : Step}
    (here : steps[index]? = some step) (here' : steps'[index]? = some step')
    {events events' : List Event} {broker broker' : Broker World Task}
    (takes : state.Takes backend settling step events broker)
    (takes' : state'.Takes backend settling step' events' broker')
    (seen : broker'.besides id wipe = broker.besides id wipe) :
    Abreast backend id wipe steps steps' (index + 1)
      (state.conclude backend index step broker events).1
      (state'.conclude backend index step' broker' events').1 where
  alike := ⟨seen, abreast.requested_eq here here' ..⟩
  follows :=
    abreast.follows.next oblivious separates here (Step.ne_dropApi abreast.open_ here) takes
  follows' := abreast.follows'.next oblivious separates here'
    (Step.ne_dropApi abreast.open' here') takes'
  same := abreast.same
  open_ := abreast.open_

end Abreast

end InstanceBroker.Session
