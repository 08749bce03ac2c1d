import InstanceBroker.Proofs.Delivery

namespace InstanceBroker

variable {World Task : Type} {service : Service World Task}

def creationValues (reports : List CreateResult) (outcome : Except OperationError CreateResult) :
    List ResultValue :=
  reports.map .ofProgress ++ [.ofOutcome .create outcome]

def creationAnswer (reports : List CreateResult) (outcome : Except OperationError CreateResult)
    (id : TransactionId) (rank : Nat) : Outcome :=
  match reports[rank]? with
  | some report => .ok (.created { report with finished := false })
  | none =>
    if rank = reports.length then
      match outcome with
      | .ok result => .ok (.created { result with finished := true })
      | .error e => .error (.operation e)
    else .error (.unknownTransaction id)

variable {reports : List CreateResult} {outcome : Except OperationError CreateResult}
  {id : TransactionId} {count : Nat}

theorem creationAnswer_beyond {rank : Nat} (beyond : reports.length < rank) :
    creationAnswer reports outcome id rank = .error (.unknownTransaction id) := by
  unfold creationAnswer
  rw [List.getElem?_eq_none (Nat.le_of_lt beyond)]
  exact if_neg (Nat.ne_of_gt beyond)

theorem creationAnswer_ne_cancelled (rank : Nat) :
    creationAnswer reports outcome id rank ≠ .error .cancelled := by
  unfold creationAnswer
  split
  · simp
  · split
    · cases outcome <;> simp
    · simp

theorem judge_creation {rank : Nat} {value : ResultValue}
    (at_rank : (creationValues reports outcome)[rank]? = some value) :
    (Operation.Kind.create.judge id value).outcome = creationAnswer reports outcome id rank ∧
      rank ≤ reports.length ∧
      ((Operation.Kind.create.judge id value).releases = true ↔ rank = reports.length) := by
  unfold creationValues at at_rank
  by_cases before : rank < reports.length
  · rw [List.getElem?_append_left (by simpa using before), List.getElem?_map,
      List.getElem?_eq_getElem before] at at_rank
    cases at_rank
    unfold creationAnswer
    rw [List.getElem?_eq_getElem before]
    exact ⟨rfl, Nat.le_of_lt before,
      ⟨nofun, fun equal => absurd equal (Nat.ne_of_lt before)⟩⟩
  · have beyond : reports.length ≤ rank := Nat.le_of_not_lt before
    rw [List.getElem?_append_right (by simpa using beyond), List.length_map] at at_rank
    have last : rank = reports.length := by
      have bound := (List.getElem?_eq_some_iff.mp at_rank).1
      simp only [List.length_singleton] at bound
      omega
    subst last
    rw [Nat.sub_self] at at_rank
    cases at_rank
    unfold creationAnswer
    rw [List.getElem?_eq_none (Nat.le_refl _), if_pos rfl]
    cases outcome with
    | ok result => exact ⟨rfl, Nat.le_refl _, iff_of_true rfl rfl⟩
    | error e => exact ⟨rfl, Nat.le_refl _, iff_of_true rfl rfl⟩

theorem length_of_terminal {values : List ResultValue}
    (fits : values <+: creationValues reports outcome)
    (terminal : ∃ value ∈ values, value.isTerminal = true) :
    values.length = reports.length + 1 := by
  have bound : values.length ≤ reports.length + 1 := by
    simpa [creationValues] using fits.length_le
  obtain ⟨value, among, last⟩ := terminal
  refine Nat.le_antisymm bound (Nat.lt_of_not_le fun short => ?_)
  have progress : values <+: reports.map .ofProgress := by
    refine List.prefix_of_prefix_length_le fits (List.prefix_append ..) ?_
    simpa using short
  obtain ⟨report, _, rfl⟩ := List.mem_map.mp (progress.subset among)
  cases last

def Request.asks (request : Request) (id : TransactionId) : Bool :=
  match request with
  | .collect _ transaction => transaction == id
  | _ => false

theorem Request.asks_iff {request : Request} :
    request.asks id = true ↔ ∃ kind, request = .collect kind id := by
  cases request with
  | collect kind transaction => simp [asks]
  | initiate | cancel | listTransactions => simp [asks]

namespace Broker

variable {broker after : Broker World Task} {turn : Turn World} {events : List Event}

def requests (broker : Broker World Task) : List Request := broker.calls.map (·.request)

def rank (broker : Broker World Task) (id : TransactionId) (caller : CallId) : Nat :=
  (broker.requests.take caller).countP (·.asks id)

def readers (broker : Broker World Task) (id : TransactionId) : Nat :=
  broker.requests.countP (·.asks id)

theorem requests_step (taken : broker.turn? service turn = some (after, events)) :
    after.requests = broker.requests ∨ ∃ request, turn = .input (.request request) ∧
      after.requests = broker.requests ++ [request] := by
  rcases calls_length taken with same | ⟨request, rfl, _, rfl⟩
  · left
    refine List.ext_getElem? fun caller => ?_
    simp only [requests, List.getElem?_map]
    cases found : broker.calls[caller]? with
    | none =>
      have beyond : after.calls.length ≤ caller := same ▸ List.getElem?_eq_none_iff.mp found
      rw [List.getElem?_eq_none beyond]
    | some call =>
      obtain ⟨phase, there, _⟩ := call_step taken found
      rw [there]
      rfl
  · exact .inr ⟨request, rfl, by simp [requests]⟩

theorem rank_step (taken : broker.turn? service turn = some (after, events)) {caller : CallId}
    (old : caller ≤ broker.calls.length) : after.rank id caller = broker.rank id caller := by
  rcases requests_step taken with same | ⟨request, _, grown⟩
  · rw [rank, same, rank]
  · have bound : caller ≤ broker.requests.length := by
      rw [requests, List.length_map]
      exact old
    rw [rank, grown, List.take_append_of_le_length bound, rank]

theorem rank_new : broker.rank id broker.calls.length = broker.readers id := by
  have whole : broker.requests.length ≤ broker.calls.length := Nat.le_of_eq (List.length_map _)
  rw [rank, readers, List.take_of_length_le whole]

theorem rank_after (taken : broker.turn? service turn = some (after, events)) :
    after.rank id broker.calls.length = broker.readers id := by
  rw [rank_step taken (Nat.le_refl _), rank_new]

theorem rank_lt {first second : CallId} {call : Call} (found : broker.calls[first]? = some call)
    (asks : call.request.asks id = true) (before : first < second) :
    broker.rank id first < broker.rank id second := by
  have there : broker.requests[first]? = some call.request := by
    rw [requests, List.getElem?_map, found]
    rfl
  have next : broker.rank id first + 1 = broker.rank id (first + 1) := by
    rw [rank, rank, List.take_add_one, there, List.countP_append]
    simp [asks]
  rw [← Nat.add_one_le_iff, next]
  exact (List.take_sublist_take_left before).countP_le

end Broker

/-- How far a call has come that `rank` others came before, when `count` values were taken in
all. -/
def Stage (reports : List CreateResult) (outcome : Except OperationError CreateResult)
    (id : TransactionId) (rank count : Nat) : Call.Phase → Prop
  | .submitting | .awaiting => count = min rank (reports.length + 1)
  | .told .granted | .reading => rank ≤ reports.length ∧ count = rank
  | .told (.refused fault) =>
    fault = .unknownTransaction id ∧ reports.length < rank ∧ count = reports.length + 1
  | .told (.opened _) | .told (.listing _) => False
  | .completing given =>
    given = creationAnswer reports outcome id rank ∧ rank = reports.length ∧
      count = reports.length + 1
  | .answered given =>
    given = creationAnswer reports outcome id rank ∧ count = min (rank + 1) (reports.length + 1)
  | .abandoned => True

theorem Call.Phase.unanswered_or (phase : Call.Phase) :
    (∀ given, phase ≠ .answered given) ∨ ∃ given, phase = .answered given := by
  cases phase with
  | answered given => exact .inr ⟨given, rfl⟩
  | _ => exact .inl (by simp)

namespace Broker

variable {broker after : Broker World Task} {turn : Turn World} {events : List Event}

/-- The transaction is served: it is not cancelled and the next value to be read is the next one of
the creation. -/
structure Serves (reports : List CreateResult) (outcome : Except OperationError CreateResult)
    (broker : Broker World Task) (id : TransactionId) (count : Nat) : Prop where
  up : broker.shutdown = false
  run : ∃ run, broker.run? id = some run ∧ run.cancelled = false ∧
    (∀ value rest, run.buffer = value :: rest →
      (creationValues reports outcome)[count]? = some value) ∧
    (run.buffer = [] → run.hasEnded = true → count = reports.length + 1)

theorem stage_progress (serves : Serves reports outcome broker id count)
    (accepts : broker.dispatcher.accepts = true) {caller : CallId} {phase next : Call.Phase}
    {rank : Nat} {actions : List Action} {rest : Option (TransactionId × List ResultValue)}
    (stage : Stage reports outcome id rank count phase)
    (progresses : Progresses broker caller { request := .collect .create id, phase } next actions
      rest events) :
    Stage reports outcome id rank (count + (takes id events).length) next ∧
      ∀ given, next = .answered given → rank = reports.length → .complete id ∈ actions := by
  have idle (nothing : takes id events = []) (same : Stage reports outcome id rank count next) :
      Stage reports outcome id rank (count + (takes id events).length) next := by
    rw [nothing]
    exact same
  obtain ⟨run, found, uncancelled, ready, last⟩ := serves.run
  generalize asked : Request.collect .create id = request at progresses
  cases progresses with
  | preempted down =>
    rw [serves.up] at down
    cases down
  | closed _ gone =>
    rw [accepts] at gone
    cases gone
  | cancelQueued => cases asked
  | queued => exact ⟨idle rfl stage, fun _ equal => by cases equal⟩
  | @learned _ reply _ _ known =>
    cases reply with
    | refused fault =>
      cases known
      obtain ⟨rfl, beyond, all⟩ := stage
      refine ⟨idle rfl ⟨(creationAnswer_beyond beyond).symm, ?_⟩, ?_⟩
      · rw [Nat.min_eq_right (Nat.succ_le_succ (Nat.le_of_lt beyond))]
        exact all
      · intro _ _ equal
        exact absurd equal (Nat.ne_of_gt beyond)
    | granted => cases known
    | opened | listing => exact stage.elim
  | opened => exact ⟨idle rfl stage, fun _ equal => by cases equal⟩
  | stranded there closed =>
    cases asked
    cases found.symm.trans there
    obtain ⟨within, reached⟩ := stage
    rcases closed with down | cancelled | ⟨empty, ended⟩
    · rw [serves.up] at down
      cases down
    · rw [uncancelled] at cancelled
      cases cancelled
    · have all := last empty ended
      rw [reached] at all
      exact absurd within (all ▸ Nat.not_succ_le_self _)
  | @tookProgress _ _ _ value _ there _ _ ahead keeps =>
    cases asked
    cases found.symm.trans there
    obtain ⟨within, reached⟩ := stage
    have at_rank := ready _ _ ahead
    rw [reached] at at_rank
    obtain ⟨answer, _, releases⟩ := judge_creation at_rank
    have early : rank ≠ reports.length := by
      intro equal
      rw [releases.mpr equal] at keeps
      cases keeps
    have took : (takes id [.took caller id value, .answered caller
        (Operation.Kind.create.judge id value).outcome]).length = 1 := by simp [takes]
    rw [took, reached]
    refine ⟨⟨answer, ?_⟩, fun _ _ equal => absurd equal early⟩
    have short : rank < reports.length := Nat.lt_of_le_of_ne within early
    exact (Nat.min_eq_left (Nat.succ_le_succ (Nat.le_of_lt short))).symm
  | @tookLast _ _ _ value _ there _ _ ahead keeps =>
    cases asked
    cases found.symm.trans there
    obtain ⟨within, reached⟩ := stage
    have at_rank := ready _ _ ahead
    rw [reached] at at_rank
    obtain ⟨answer, _, releases⟩ := judge_creation at_rank
    have last := releases.mp keeps
    have took : (takes id [.took caller id value]).length = 1 := by simp [takes]
    rw [took, reached, last]
    exact ⟨⟨last ▸ answer, rfl, rfl⟩, fun _ equal => by cases equal⟩
  | unreleased closed =>
    rw [serves.up, accepts] at closed
    rcases closed with closed | closed <;> cases closed
  | released =>
    cases asked
    obtain ⟨rfl, rfl, all⟩ := stage
    refine ⟨idle rfl ⟨rfl, ?_⟩, fun _ _ _ => List.mem_singleton.mpr rfl⟩
    rw [Nat.min_self]
    exact all

theorem stage_step (formed : broker.WellFormed) (serves : Serves reports outcome broker id count)
    {caller : CallId} {phase next : Call.Phase} {rank : Nat}
    (found : broker.calls[caller]? = some { request := .collect .create id, phase })
    (unanswered : ∀ given, phase ≠ .answered given)
    (stage : Stage reports outcome id rank count phase)
    (step : CallStep broker after caller { request := .collect .create id, phase } turn events next)
    (alone : turn ≠ .move (.call caller) → takes id events = [])
    (grants : ∀ queue reply, broker.queue = .getResult id caller :: queue →
      broker.reply? (.getResult id caller) = some reply →
      phase = .awaiting → Stage reports outcome id rank count (.told reply)) :
    Stage reports outcome id rank (count + (takes id events).length) next ∧
      ∀ given, next = .answered given → rank = reports.length →
        .complete id ∈ after.queue := by
  cases step with
  | kept other =>
    rw [alone other]
    exact ⟨stage, fun given equal => absurd equal (unanswered given)⟩
  | @told action queue later reply waits _ head asks replies =>
    rw [alone (by simp)]
    obtain ⟨call, there, same, _⟩ :=
      formed.asked action (head ▸ List.mem_cons_self) caller asks
    cases there.symm.trans found
    cases same
    exact ⟨grants queue reply head replies waits, fun _ equal => by cases equal⟩
  | progressed progresses result =>
    obtain ⟨run, begun, _⟩ := serves.run
    obtain ⟨due, running⟩ :=
      accepts_of_pending formed serves.up begun found progresses.pending
    have accepts := accepts_of_running running
    obtain ⟨stage, releases⟩ := stage_progress serves accepts stage progresses
    refine ⟨stage, fun given answered last => ?_⟩
    rw [result, queue_moved]
    exact List.mem_append_right _ (releases given answered last)
  | abandoned => exact ⟨trivial, fun _ equal => by cases equal⟩

def Reader (broker : Broker World Task) (id : TransactionId) (caller : CallId)
    (phase : Call.Phase) : Prop :=
  ∃ kind, broker.calls[caller]? = some { request := .collect kind id, phase }

def AllAnswered (broker : Broker World Task) (id : TransactionId) : Prop :=
  ∀ caller phase, broker.Reader id caller phase → ∃ given, phase = .answered given

theorem Reader.phase_eq {caller : CallId} {phase phase' : Call.Phase}
    (one : broker.Reader id caller phase) (two : broker.Reader id caller phase') :
    phase = phase' := by
  obtain ⟨_, found⟩ := one
  obtain ⟨_, found'⟩ := two
  cases found.symm.trans found'
  rfl

theorem Reader.waiting {caller : CallId} {phase : Call.Phase}
    (reader : broker.Reader id caller phase) (unanswered : ∀ given, phase ≠ .answered given) :
    ¬ broker.AllAnswered id := by
  intro all
  obtain ⟨given, equal⟩ := all caller phase reader
  exact unanswered given equal

theorem Reader.rank_lt_readers {caller : CallId} {phase : Call.Phase}
    (reader : broker.Reader id caller phase) : broker.rank id caller < broker.readers id := by
  obtain ⟨kind, found⟩ := reader
  have bound : caller < broker.calls.length := (List.getElem?_eq_some_iff.mp found).1
  rw [← rank_new]
  exact rank_lt found (Request.asks_iff.mpr ⟨kind, rfl⟩) bound

theorem Reader.eq_of_rank {first second : CallId} {phase phase' : Call.Phase}
    (one : broker.Reader id first phase) (two : broker.Reader id second phase')
    (same : broker.rank id first = broker.rank id second) : first = second := by
  obtain ⟨kind, found⟩ := one
  obtain ⟨kind', found'⟩ := two
  rcases Nat.lt_trichotomy first second with before | equal | behind
  · have less := rank_lt found (Request.asks_iff.mpr ⟨kind, rfl⟩) before
    exact absurd same (Nat.ne_of_lt less)
  · exact equal
  · have less := rank_lt found' (Request.asks_iff.mpr ⟨kind', rfl⟩) behind
    exact absurd same.symm (Nat.ne_of_lt less)

theorem Reader.origin (taken : broker.turn? service turn = some (after, events)) {caller : CallId}
    {next : Call.Phase} (reader : after.Reader id caller next) :
    (∃ kind phase, broker.calls[caller]? = some { request := .collect kind id, phase } ∧
      CallStep broker after caller { request := .collect kind id, phase } turn events next) ∨
    (∃ kind, turn = .input (.request (.collect kind id)) ∧ caller = broker.calls.length ∧
      next = .submitting) := by
  obtain ⟨kind, found⟩ := reader
  rcases call_origin taken found with
    ⟨⟨request, phase⟩, before, same, step⟩ | ⟨new, rfl, fresh, _⟩
  · cases same
    exact .inl ⟨kind, phase, before, step⟩
  · exact .inr ⟨kind, rfl, new, fresh⟩

theorem readers_step (taken : broker.turn? service turn = some (after, events)) :
    after.readers id = broker.readers id ∨
      ∃ kind, turn = .input (.request (.collect kind id)) ∧
        after.readers id = broker.readers id + 1 ∧
        after.Reader id broker.calls.length .submitting := by
  rcases calls_length taken with same | ⟨request, rfl, reachable, rfl⟩
  · left
    rcases requests_step taken with equal | ⟨request, _, grown⟩
    · rw [readers, equal, readers]
    · have longer := congrArg List.length grown
      simp only [requests, List.length_map, List.length_append, List.length_singleton, same]
        at longer
      omega
  · simp only [readers, requests, List.map_append, List.countP_append]
    cases asks : request.asks id with
    | false => simp [asks]
    | true =>
      obtain ⟨kind, rfl⟩ := Request.asks_iff.mp asks
      exact .inr ⟨kind, rfl, by simp [asks], kind, by simp⟩

end Broker

end InstanceBroker
