import InstanceBroker.Proofs.Foreclosure

namespace InstanceBroker

variable {World Task : Type} {service : Service World Task}

def Outcome.isTerminal : Outcome → Bool
  | .ok (.created result) => result.finished
  | .ok .done | .ok (.details _) | .ok (.instances _) => true
  | .error (.operation _) | .error (.unexpectedResult _ _) => true
  | _ => false

theorem Table.unlisted {table : Table} {id : TransactionId} (missing : table.find? id = none) :
    ∀ info ∈ table.snapshot, info.id ≠ id := by
  rintro info among rfl
  obtain ⟨slot, live, rfl⟩ := List.mem_map.mp among
  have absent := List.find?_eq_none.mp missing slot live
  exact absent BEq.rfl

theorem progress_of_keeps {kind : Operation.Kind} {id : TransactionId} {value : ResultValue}
    (keeps : (kind.judge id value).releases = false) :
    ∃ result, value = .progress result ∧
      (kind.judge id value).outcome = .ok (.created result) := by
  cases value with
  | progress result =>
    by_cases create : kind = .create
    · exact ⟨result, rfl, by simp [Operation.Kind.judge, create]⟩
    · simp [Operation.Kind.judge, create] at keeps
  | final payload =>
    cases read : kind.answer? payload <;> simp [Operation.Kind.judge, read] at keeps
  | failed error => cases keeps

namespace Broker

variable {broker after : Broker World Task} {turn : Turn World} {events : List Event}
  {id : TransactionId}

theorem unfinished_of_product? {result : CreateResult}
    (produced : broker.product? service id = some (.progress result)) :
    result.finished = false := by
  simp only [product?, Option.bind_eq_bind, Option.bind_eq_some_iff] at produced
  obtain ⟨run, _, produced⟩ := produced
  split at produced
  · split at produced
    · cases produced
      rfl
    · rename_i outcome _
      cases outcome <;> cases produced
    all_goals cases produced
  · cases produced

theorem missing_step (formed : broker.WellFormed) (known : id ≤ broker.runs.length)
    (taken : broker.turn? service turn = some (after, events))
    (gone : broker.table.find? id = none ∨ .handled (.complete id) ∈ events) :
    after.table.find? id = none := by
  rcases gone with missing | handled
  · rcases slot_begun taken missing with still | ⟨next, _⟩
    · exact still
    · rw [next, formed.numbered] at known
      exact absurd known (Nat.not_succ_le_self _)
  · obtain ⟨_, _, _, _, _, handles⟩ := handles_of_handled taken handled
    exact handles.released_slot

theorem ignored_of_missing (up : broker.shutdown = false) (missing : broker.table.find? id = none)
    {action : Action} {queue : List Action} (head : broker.queue = action :: queue)
    (moot : action = .cancel id ∨ action = .complete id)
    (taken : broker.turn? service (.move .dispatcher) = some (after, events)) :
    after = { broker with queue } ∧ events = [.handled action] := by
  have dead : broker.table.isLive id = false := by simp [Table.isLive, missing]
  cases (dispatches_of_dispatch? taken).2 with
  | stopped final =>
    rcases final with down | ⟨idle, _⟩
    · rw [up] at down
      cases down
    · rw [head] at idle
      cases idle
  | handled _ first handles =>
    cases head.symm.trans first
    rcases moot with rfl | rfl
    · cases handles with
      | cancelled live =>
        rw [dead] at live
        cases live
      | cancelIgnored => exact ⟨rfl, rfl⟩
    · cases handles with
      | completed live =>
        rw [dead] at live
        cases live
      | completeIgnored => exact ⟨rfl, rfl⟩
  | swept _ idle =>
    rw [head] at idle
    cases idle

end Broker

namespace Trace

variable {start last : Broker World Task} {moments : List (Moment World Task)} {id : TransactionId}

theorem missing_of_handled (trace : Trace service start moments last) (formed : start.WellFormed)
    (known : id ≤ start.runs.length) (handled : .complete id ∈ handledIn (history moments)) :
    last.table.find? id = none := by
  induction trace with
  | nil => cases handled
  | snoc earlier taken ih =>
    have formed' := earlier.formed formed
    have known' := Nat.le_trans known earlier.runs_grow
    apply Broker.missing_step formed' known' taken
    rw [history_append, history_singleton, handledIn_append] at handled
    rcases List.mem_append.mp handled with before | now
    · exact .inl (ih before)
    · exact .inr (mem_handledIn.mp now)

theorem informed_of_released (trace : Trace service start moments last)
    (formed : start.WellFormed) (up : last.shutdown = false) {run : Run Task}
    (begun : start.run? id = some run) (queued : .complete id ∈ start.queue) {caller : CallId}
    (late : start.calls.length ≤ caller) {request : Request}
    (replied : ∀ transaction, request ≠ .cancel transaction) {good : DispatcherReply → Prop}
    (ungranted : ¬ good .granted)
    (tells : ∀ broker : Broker World Task, broker.table.find? id = none → ∀ reply,
      broker.reply? (request.action caller) = some reply → good reply) {phase : Call.Phase}
    (found : last.calls[caller]? = some { request, phase }) :
    ({ request, phase } : Call).Informed good fun _ => False := by
  refine trace.informed_of_late formed late ungranted replied (fun moment among => ?_) found
  obtain ⟨first, later, after, _, before, taken, rest⟩ := trace.split among
  obtain ⟨run, begun'⟩ := before.kept_run begun
  apply Broker.informs_of_replies (before.formed formed)
    (((single taken).append rest).up up) begun'
  intro queue reply head replies
  have known := ((start.run?_isSome_iff id).mp (Option.isSome_of_eq_some begun)).2
  -- The release was queued before the call was made, so it has been handled by now.
  have drained :=
    before.drained_of_late formed late head (Request.caller?_action caller replied)
  exact tells _ (before.missing_of_handled formed known (drained.subset queued)) reply replies

end Trace

variable {config : Config} {origin : Timestamp} {world : World} {thrownAway : List TransactionId}
  {earlier later : List (Moment World Task)} {before broker last : Broker World Task}
  {id : TransactionId}

theorem Trace.unfinished
    (trace : Trace service (.fresh config origin world thrownAway) earlier before)
    {result : CreateResult} (waits : .progress result ∈ before.buffered id) :
    result.finished = false := by
  have written : .progress result ∈ writtenTo id (history earlier) := by
    rw [← (trace.conservation id).1]
    exact List.mem_append_right _ waits
  have produced := (trace.production id).subset (List.mem_append_left _ written)
  obtain ⟨moment, _, produced⟩ := List.mem_filterMap.mp produced
  unfold Moment.product? at produced
  split at produced
  · split at produced
    · exact Broker.unfinished_of_product? produced
    · cases produced
  · cases produced

theorem Trace.queued_of_terminal
    (trace : Trace service (.fresh config origin world thrownAway) earlier before)
    {caller : CallId} {kind : Operation.Kind} {phase : Call.Phase}
    (asks : before.calls[caller]? = some { request := .collect kind id, phase })
    {turn : Turn World} {events : List Event}
    (taken : before.turn? service turn = some (broker, events)) {outcome : Outcome}
    (answered : .answered caller outcome ∈ events) (terminal : outcome.isTerminal = true)
    (up : broker.shutdown = false) :
    broker.queue = before.queue ++ [.complete id] ∧ ∃ run, broker.run? id = some run := by
  have formed := trace.wellFormed
  have sound := formed.sound caller _ asks
  have up' : before.shutdown = false := (Trace.single taken).up up
  obtain ⟨next, _, step⟩ := Broker.call_step taken asks
  cases step with
  | kept _ quiet => exact absurd rfl (quiet _ answered)
  | told _ _ _ _ _ quiet => exact absurd rfl (quiet _ answered)
  | abandoned => cases answered
  | progressed progresses result =>
    cases progresses with
    | preempted | closed | stranded =>
      cases List.mem_singleton.mp answered
      cases terminal
    | @learned _ reply _ _ known =>
      cases List.mem_singleton.mp answered
      cases reply with
      | granted => cases known
      | opened | listing =>
        cases known
        cases terminal
      | refused fault =>
        cases known
        obtain ⟨_, _, _, rfl | rfl⟩ := sound <;> cases terminal
    | queued | opened | tookLast => simp at answered
    | @tookProgress _ _ run value values there _ _ ready keeps =>
      -- Progress is answered at once and without a release, but it is not terminal.
      have waits : value ∈ before.buffered id := by simp [Broker.buffered, there, ready]
      obtain ⟨report, rfl, given⟩ := progress_of_keeps keeps
      have unfinished := trace.unfinished waits
      simp only [List.mem_cons, List.not_mem_nil, or_false, reduceCtorEq, false_or,
        Event.answered.injEq, true_and] at answered
      rw [answered, given, Outcome.isTerminal, unfinished] at terminal
      cases terminal
    | unreleased closed =>
      -- The dispatcher does not end while this very call is pending.
      obtain ⟨run, begun⟩ := formed.begun_of_holds asks BEq.rfl
      obtain ⟨due, running⟩ := Broker.accepts_of_pending formed up' begun asks rfl
      rcases closed with down | gone
      · rw [up'] at down
        cases down
      · rw [Broker.accepts_of_running running] at gone
        cases gone
    | released =>
      obtain ⟨run, begun⟩ := formed.begun_of_holds asks BEq.rfl
      refine ⟨?_, (Trace.single taken).kept_run begun⟩
      rw [result, Broker.queue_moved]

/-- What is left of a transaction for those who come after `broker`. -/
structure Forgotten (service : Service World Task) (broker : Broker World Task)
    (later : List (Moment World Task)) (last : Broker World Task) (id : TransactionId) : Prop where
  unknown : ∀ caller kind phase, broker.calls.length ≤ caller →
    last.calls[caller]? = some { request := .collect kind id, phase } →
    last.Returns service caller { request := .collect kind id, phase }
      (· = .error (.unknownTransaction id))
  unlisted : ∀ caller phase, broker.calls.length ≤ caller →
    last.calls[caller]? = some { request := .listTransactions, phase } →
    last.Returns service caller { request := .listTransactions, phase } fun outcome =>
      ∃ infos, outcome = .ok (.transactions infos) ∧ ∀ info ∈ infos, info.id ≠ id
  order : broker.queue ++ acceptedIn (history later) = handledIn (history later) ++ last.queue
  /-- When its turn comes, a cancellation or another release changes nothing. -/
  ignored : ∀ action queue, action = .cancel id ∨ action = .complete id →
    last.queue = action :: queue → broker.queue.length ≤ (handledIn (history later)).length →
    ∀ after events, last.turn? service (.move .dispatcher) = some (after, events) →
      after = { last with queue } ∧ events = [.handled action]

/-- When a call returns the last result of a transaction, the transaction is over for all who start
to ask from then on, whoever else is still at it. -/
theorem forgotten_of_terminal (valid : config.validate = .ok config)
    (trace : Trace service (.fresh config origin world thrownAway) earlier before)
    {caller : CallId} {kind : Operation.Kind} {phase : Call.Phase}
    (asks : before.calls[caller]? = some { request := .collect kind id, phase })
    {turn : Turn World} {events : List Event}
    (taken : before.turn? service turn = some (broker, events)) {outcome : Outcome}
    (answered : .answered caller outcome ∈ events) (terminal : outcome.isTerminal = true)
    (rest : Trace service broker later last) (up : last.shutdown = false) :
    Forgotten service broker later last id := by
  obtain ⟨shape, run, begun⟩ :=
    trace.queued_of_terminal asks taken answered terminal (rest.up up)
  have whole := trace.snoc taken
  have formed := whole.wellFormed
  have formed' : last.WellFormed := (whole.append rest).wellFormed
  have queued : .complete id ∈ broker.queue := by simp [shape]
  have known := ((broker.run?_isSome_iff id).mp (Option.isSome_of_eq_some begun)).2
  have roomy := (whole.append rest).roomy valid
  obtain ⟨run', begun'⟩ := rest.kept_run begun
  have balance := rest.queue_balance
  constructor
  case unknown =>
    intro caller kind phase late there
    have informed : ({ request := .collect kind id, phase } : Call).Informed
        (· = .refused (.unknownTransaction id)) fun _ => False := by
      refine rest.informed_of_released formed up begun queued late (by simp) (by simp) ?_ there
      intro broker missing reply replies
      rcases broker.reply?_getResult id caller with ⟨_, refused⟩ | ⟨slot, live, _⟩
      · exact Option.some.inj (replies.symm.trans refused)
      · cases missing.symm.trans live
    refine Broker.returns_of_informed formed' roomy begun' there informed ?_ nofun
    rintro _ outcome rfl known
    cases known
    rfl
  case unlisted =>
    intro caller phase late there
    have informed : ({ request := .listTransactions, phase } : Call).Informed
        (fun reply => ∃ infos, reply = .listing infos ∧ ∀ info ∈ infos, info.id ≠ id)
        fun _ => False := by
      refine rest.informed_of_released formed up begun queued late (by simp) (by simp) ?_ there
      intro broker missing reply replies
      cases replies
      exact ⟨_, rfl, Table.unlisted missing⟩
    refine Broker.returns_of_informed formed' roomy begun' there informed ?_ nofun
    rintro _ outcome ⟨infos, rfl, absent⟩ known
    cases known
    exact ⟨infos, rfl, absent⟩
  case order => exact balance
  case ignored =>
    intro action queue moot head most after events fired
    have drained : broker.queue <+: handledIn (history later) := by
      have front : broker.queue <+: handledIn (history later) ++ last.queue :=
        ⟨acceptedIn (history later), balance⟩
      exact List.prefix_of_prefix_length_le front (List.prefix_append _ _) most
    have missing := rest.missing_of_handled formed known (drained.subset queued)
    exact Broker.ignored_of_missing up missing head moot fired

/-- The listing that the cancellations overtook is returned after all. The answered call leaves its
release in the queue, and four more calls are made before the dispatcher gets to it. -/
def returning : List (Turn Catalogue) :=
  [.input (.request (.collect .listInstances 1)), .input (.request (.cancel 1)),
    .input (.request .listTransactions), .input (.request (.collect .status 1)),
    .move .dispatcher, .move (.call 7), .move .dispatcher, .move (.call 6), .move .dispatcher,
    .move (.call 6), .move (.call 8), .move .dispatcher, .move (.call 8), .move (.call 9),
    .move .dispatcher, .move (.call 9)]

theorem forgotten_overtaking : ∃ earlier before broker later last,
    (Broker.fresh narrow ⟨0, 0⟩ {} []).follow? (Simulated.Plan.service {})
      (overtaking ++ [.move .dispatcher]) = some (earlier, before) ∧
    narrow.validate = .ok narrow ∧
    before.calls[1]? = some
      { request := .collect .listInstances 1, phase := .completing (.ok (.instances [])) } ∧
    before.turn? (Simulated.Plan.service {}) (.move (.call 1)) =
      some (broker, [.accepted 1 (.complete 1), .answered 1 (.ok (.instances []))]) ∧
    broker.follow? (Simulated.Plan.service {}) returning = some (later, last) ∧
    last.shutdown = false ∧
    (last.calls.drop 6).map (·.phase) = [.answered (.error (.unknownTransaction 1)),
      .answered (.ok .cancelRequested), .answered (.ok (.transactions [])),
      .answered (.error (.unknownTransaction 1))] ∧
    Forgotten (Simulated.Plan.service {}) broker later last 1 := by
  have runs : ∃ earlier before broker later last,
      (Broker.fresh narrow ⟨0, 0⟩ {} []).follow? (Simulated.Plan.service {})
        (overtaking ++ [.move .dispatcher]) = some (earlier, before) ∧
      before.calls[1]? = some
        { request := .collect .listInstances 1, phase := .completing (.ok (.instances [])) } ∧
      before.turn? (Simulated.Plan.service {}) (.move (.call 1)) =
        some (broker, [.accepted 1 (.complete 1), .answered 1 (.ok (.instances []))]) ∧
      broker.follow? (Simulated.Plan.service {}) returning = some (later, last) ∧
      last.shutdown = false ∧
      (last.calls.drop 6).map (·.phase) = [.answered (.error (.unknownTransaction 1)),
        .answered (.ok .cancelRequested), .answered (.ok (.transactions [])),
        .answered (.error (.unknownTransaction 1))] :=
    ⟨_, _, _, _, _, rfl, rfl, rfl, rfl, rfl, rfl⟩
  obtain ⟨earlier, before, broker, later, last, followed, asks, taken, continued, up,
    answers⟩ := runs
  have valid : narrow.validate = .ok narrow := rfl
  exact ⟨earlier, before, broker, later, last, followed, valid, asks, taken, continued,
    up, answers, forgotten_of_terminal valid (.of_follow? followed) asks taken
      (List.mem_cons_of_mem _ List.mem_cons_self) rfl (.of_follow? continued) up⟩

end InstanceBroker
