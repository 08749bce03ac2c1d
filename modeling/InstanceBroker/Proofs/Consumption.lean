import InstanceBroker.Proofs.Seal
import InstanceBroker.Service.Scripted

namespace InstanceBroker

variable {World Task : Type} {service : Service World Task}

structure Sent (moments : List (Moment World Task)) (last : Broker World Task) (caller : CallId)
    (kind : Operation.Kind) (id : TransactionId) (value : ResultValue) : Prop where
  asked : ∃ phase, last.calls[caller]? = some { request := .collect kind id, phase }
  took : .took caller id value ∈ history moments
  releases : (kind.judge id value).releases = true
  accepted : .accepted caller (.complete id) ∈ history moments
  answered : .answered caller (kind.judge id value).outcome ∈ history moments

variable {moments : List (Moment World Task)} {broker after last : Broker World Task}
  {turn : Turn World} {events : List Event} {caller : CallId} {kind : Operation.Kind}
  {id : TransactionId}

theorem history_grows {event : Event} (among : event ∈ history moments)
    (moment : Moment World Task) : event ∈ history (moments ++ [moment]) := by
  rw [history_append]
  exact List.mem_append_left _ among

theorem Sent.later {value : ResultValue} (sent : Sent moments broker caller kind id value)
    (taken : broker.turn? service turn = some (after, events)) :
    Sent (moments ++ [⟨broker, turn, events⟩]) after caller kind id value where
  asked := by
    obtain ⟨phase, found⟩ := sent.asked
    obtain ⟨next, there, _⟩ := Broker.call_step taken found
    exact ⟨next, there⟩
  took := history_grows sent.took _
  releases := sent.releases
  accepted := history_grows sent.accepted _
  answered := history_grows sent.answered _

namespace Broker

theorem queued_of_completed (taken : broker.turn? service turn = some (after, events))
    (completed : .completed id ∈ events) : .complete id ∈ broker.queue := by
  cases turns_of_turn? taken with
  | dispatched running dispatches =>
    cases dispatches with
    | stopped => simp at completed
    | @handled action queue _ later up head handles =>
      rw [head]
      cases handles <;> simp at completed
      subst completed
      exact List.mem_cons_self
    | swept => simp at completed
  | advanced _ advances => cases advances <;> simp at completed
  | progressed _ progresses => cases progresses <;> simp at completed
  | received | changed => cases completed

end Broker

theorem Trace.took_of_completing {start : Broker World Task}
    (trace : Trace service start moments last) (unasked : start.calls = []) {outcome : Outcome}
    (found : last.calls[caller]? =
      some { request := .collect kind id, phase := .completing outcome }) :
    ∃ value, .took caller id value ∈ history moments ∧
      (kind.judge id value).releases = true ∧
      outcome = (kind.judge id value).outcome := by
  induction trace generalizing outcome with
  | nil =>
    rw [unasked] at found
    cases found
  | @snoc moments broker after turn events earlier taken ih =>
    rcases Broker.call_origin taken found with ⟨⟨request, phase⟩, before, same, step⟩ | new
    · cases same
      generalize reached : Call.Phase.completing outcome = next at step
      cases step with
      | kept =>
        subst reached
        obtain ⟨value, took, rest⟩ := ih before
        exact ⟨value, history_grows took _, rest⟩
      | progressed progresses =>
        cases progresses with
        | @tookLast _ _ run value _ _ _ _ _ releases =>
          cases reached
          refine ⟨value, ?_, releases, rfl⟩
          rw [history_append]
          exact List.mem_append_right _ (by simp)
        | _ => cases reached
      | told | abandoned => cases reached
    · cases new.2.2.1

theorem Trace.sent_of_queued {start : Broker World Task}
    (trace : Trace service start moments last) (unasked : start.calls = [])
    (idle : start.queue = []) (queued : .complete id ∈ last.queue) :
    ∃ caller kind value, Sent moments last caller kind id value := by
  induction trace with
  | nil =>
    rw [idle] at queued
    cases queued
  | @snoc moments broker after turn events earlier taken ih =>
    rcases Broker.release_step taken queued with
      old | ⟨caller, kind, outcome, rfl, rfl, asks, rfl⟩
    · obtain ⟨caller, kind, value, sent⟩ := ih old
      exact ⟨caller, kind, value, sent.later taken⟩
    · obtain ⟨value, took, releases, rfl⟩ := earlier.took_of_completing unasked asks
      obtain ⟨phase, there, _⟩ := Broker.call_step taken asks
      refine ⟨caller, kind, value, ⟨phase, there⟩, history_grows took _, releases, ?_, ?_⟩
      all_goals
        rw [history_append]
        exact List.mem_append_right _ (by simp)

theorem surprised_of_releases {result : CreateResult}
    (releases : (kind.judge id (.progress result)).releases = true) :
    kind ≠ .create ∧ (kind.judge id (.progress result)).outcome =
      .error (.unexpectedResult id kind.expectation) := by
  by_cases create : kind = .create
  · simp [Operation.Kind.judge, create] at releases
  · exact ⟨create, by simp [Operation.Kind.judge, create]⟩

structure Consumption (moments : List (Moment World Task)) (last : Broker World Task)
    (caller : CallId) (kind : Operation.Kind) (id : TransactionId)
    (value : ResultValue) : Prop where
  sent : Sent moments last caller kind id value
  spent : value.isTerminal = true → last.Spent id
  surprised : value.isTerminal = false →
    kind ≠ .create ∧ ∃ result, value = .progress result ∧
      .answered caller (.error (.unexpectedResult id kind.expectation)) ∈ history moments

/-- Whenever a release removes a transaction, the call that sent it had taken the terminal value, or
it had taken progress of a creation that it took for something else. -/
theorem consumption_of_completed {config : Config} {origin : Timestamp} {world : World}
    {thrownAway : List TransactionId}
    (trace : Trace service (.fresh config origin world thrownAway) moments last)
    (taken : last.turn? service turn = some (after, events))
    (completed : .completed id ∈ events) :
    ∃ caller kind value, Consumption moments last caller kind id value := by
  have queued := Broker.queued_of_completed taken completed
  obtain ⟨caller, kind, value, sent⟩ := trace.sent_of_queued rfl rfl queued
  refine ⟨caller, kind, value, sent, ?_, ?_⟩
  · intro terminal
    exact trace.spent_of_took sent.took terminal
  · intro ongoing
    cases value with
    | progress result =>
      obtain ⟨foreign, outcome⟩ := surprised_of_releases sent.releases
      exact ⟨foreign, result, rfl, outcome ▸ sent.answered⟩
    | final | failed => cases ongoing

def pausing : Scripted.Script where
  acts := [.line "boot", .gate "g"]

def mistaking : List (Turn Scripted.World) :=
  [.input .startDispatcher, .input (.request (.initiate (.create { name := some "vm" }))),
    .move (.call 0), .move .dispatcher, .move (.run 1), .move (.run 1), .move (.run 1),
    .move (.run 1), .move (.call 0), .input (.request (.collect .stop 1)), .move (.call 1),
    .move .dispatcher, .move (.call 1), .move (.call 1), .move (.call 1)]

theorem consumption_mistaking : ∃ moments last after,
    (Broker.fresh {} ⟨0, 0⟩ {} []).follow? (Scripted.Scripts.service [(1, pausing)]) mistaking =
      some (moments, last) ∧
    last.turn? (Scripted.Scripts.service [(1, pausing)]) (.move .dispatcher) =
      some (after, [.handled (.complete 1), .completed 1]) ∧
    ∃ caller kind value, Consumption moments last caller kind 1 value := by
  have runs : ∃ moments last after,
      (Broker.fresh {} ⟨0, 0⟩ {} []).follow?
        (Scripted.Scripts.service [(1, pausing)]) mistaking = some (moments, last) ∧
      last.turn? (Scripted.Scripts.service [(1, pausing)]) (.move .dispatcher) =
        some (after, [.handled (.complete 1), .completed 1]) := ⟨_, _, _, rfl, rfl⟩
  obtain ⟨moments, last, after, followed, released⟩ := runs
  exact ⟨moments, last, after, followed, released,
    consumption_of_completed (.of_follow? followed) released (by simp)⟩

/-- The release takes the slot from an operation that is still running, and nobody has taken a
terminal value. -/
theorem unspent_mistaking : ∃ moments last after,
    Trace (Scripted.Scripts.service [(1, pausing)]) (.fresh {} ⟨0, 0⟩ {} []) moments last ∧
    last.shutdown = false ∧
    last.turn? (Scripted.Scripts.service [(1, pausing)]) (.move .dispatcher) =
      some (after, [.handled (.complete 1), .completed 1]) ∧
    (last.run? 1).any (·.hasEnded) = false ∧ after.table.isLive 1 = false ∧
    ¬ ∃ caller value, .took caller 1 value ∈ history moments ∧ value.isTerminal = true := by
  have runs : ∃ moments last after,
      (Broker.fresh {} ⟨0, 0⟩ {} []).follow?
        (Scripted.Scripts.service [(1, pausing)]) mistaking = some (moments, last) ∧
      last.shutdown = false ∧
      last.turn? (Scripted.Scripts.service [(1, pausing)]) (.move .dispatcher) =
        some (after, [.handled (.complete 1), .completed 1]) ∧
      (last.run? 1).any (·.hasEnded) = false ∧ after.table.isLive 1 = false ∧
      takes 1 (history moments) = [(1, .progress (.progress "boot"))] :=
    ⟨_, _, _, rfl, rfl, rfl, rfl, rfl, rfl⟩
  obtain ⟨moments, last, after, followed, up, released, running, gone, took⟩ := runs
  refine ⟨moments, last, after, .of_follow? followed, up, released, running, gone, ?_⟩
  rintro ⟨caller, value, taken, terminal⟩
  have among := mem_takes.mpr taken
  rw [took] at among
  cases List.mem_singleton.mp among
  cases terminal

end InstanceBroker
