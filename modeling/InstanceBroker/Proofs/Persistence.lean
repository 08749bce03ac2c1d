import InstanceBroker.Proofs.Consumption
import InstanceBroker.Proofs.Creation.Invariant
import InstanceBroker.Proofs.Family
import InstanceBroker.Proofs.Rivalry

namespace InstanceBroker

variable {World Task : Type} {service : Service World Task}

def Call.Phase.reports : Call.Phase → Bool
  | .answered (.ok (.created result)) => !result.finished
  | _ => false

theorem Call.Phase.answered_of_reports {phase : Call.Phase} (reports : phase.reports = true) :
    ∃ outcome, phase = .answered outcome := by
  cases phase with
  | answered outcome => exact ⟨outcome, rfl⟩
  | submitting | awaiting | told | reading | completing | abandoned => cases reports

theorem finished_of_made {moments : List (Moment World Task)} {id : TransactionId}
    {operation : Operation} {result : CreateResult}
    (made : Made service moments id operation (.final (.created result))) :
    result.finished = true := by
  generalize value_eq : ResultValue.final (.created result) = value at made
  cases made with
  | reported => cases value_eq
  | @concluded outcome =>
    cases outcome with
    | error => cases value_eq
    | ok returned => cases operation <;> cases value_eq; rfl

theorem unreported_of_releases {moments : List (Moment World Task)} {kind : Operation.Kind}
    {id : TransactionId} {operation : Operation} {value : ResultValue}
    (made : Made service moments id operation value)
    (releases : (kind.judge id value).releases = true) :
    (Call.Phase.answered (kind.judge id value).outcome).reports = false := by
  cases value with
  | progress result =>
    rw [(surprised_of_releases releases).2]
    rfl
  | failed => rfl
  | final payload =>
    rw [Operation.Kind.judge, Operation.Kind.answer?_eq]
    by_cases same : payload.family = kind.family
    · rw [if_pos same]
      cases payload with
      | created result => simp [Call.Phase.reports, Payload.answer, finished_of_made made]
      | done | details | instances => rfl
    · rw [if_neg same]
      rfl

namespace Broker

/-- A call for a result of the transaction comes once it was opened, and once every other one was
answered with progress. -/
def Persistent (broker : Broker World Task) (id : TransactionId) (turn : Turn World) : Prop :=
  ∀ kind, turn = .input (.request (.collect kind id)) → id < broker.table.nextId ∧
    ∀ caller phase, broker.Reader id caller phase → phase.reports = true

variable {broker after : Broker World Task} {turn : Turn World} {events : List Event}
  {id : TransactionId} {caller : CallId}

theorem reader_step (taken : broker.turn? service turn = some (after, events))
    {phase : Call.Phase} (reader : after.Reader id caller phase) (waits : phase.reports = false) :
    (∃ earlier, broker.Reader id caller earlier ∧ earlier.reports = false) ∨
      ∃ kind, turn = .input (.request (.collect kind id)) ∧ caller = broker.calls.length := by
  rcases reader.origin taken with ⟨kind, earlier, found, step⟩ | ⟨kind, asked, new, -⟩
  · refine .inl ⟨earlier, ⟨kind, found⟩, ?_⟩
    rw [← Bool.not_eq_true]
    intro reports
    obtain ⟨outcome, rfl⟩ := Call.Phase.answered_of_reports reports
    cases step.settled rfl
    cases reports.symm.trans waits
  · exact .inr ⟨kind, asked, new⟩

end Broker

/-- A call took a value of the transaction with which it releases it. -/
def Exhausted (moments : List (Moment World Task)) (last : Broker World Task)
    (id : TransactionId) : Prop :=
  ∃ caller kind phase value, last.calls[caller]? = some { request := .collect kind id, phase } ∧
    .took caller id value ∈ history moments ∧ (kind.judge id value).releases = true

theorem Exhausted.later {moments : List (Moment World Task)} {broker after : Broker World Task}
    {turn : Turn World} {events : List Event} {id : TransactionId}
    (exhausted : Exhausted moments broker id)
    (taken : broker.turn? service turn = some (after, events)) :
    Exhausted (moments ++ [⟨broker, turn, events⟩]) after id := by
  obtain ⟨caller, kind, phase, value, found, took, releases⟩ := exhausted
  obtain ⟨next, there, -⟩ := Broker.call_step taken found
  exact ⟨caller, kind, next, value, there, history_grows took _, releases⟩

namespace Trace

variable {config : Config} {origin : Timestamp} {world : World} {thrownAway : List TransactionId}
  {moments : List (Moment World Task)} {last : Broker World Task} {id : TransactionId}
  {caller : CallId} {kind : Operation.Kind} {phase : Call.Phase}

theorem alone (trace : Trace service (.fresh config origin world thrownAway) moments last)
    (persistent : ∀ moment ∈ moments, moment.broker.Persistent id moment.turn) {other : CallId}
    {phase' : Call.Phase} (reader : last.Reader id caller phase) (waits : phase.reports = false)
    (reader' : last.Reader id other phase') (waits' : phase'.reports = false) :
    caller = other := by
  induction trace generalizing caller phase other phase' with
  | nil =>
    obtain ⟨_, found⟩ := reader
    cases found
  | @snoc moments broker after turn events earlier taken ih =>
    have before := fun moment among => persistent moment (List.mem_append_left _ among)
    have turn_ok := persistent _ (List.mem_append_right _ (List.mem_singleton.mpr rfl))
    -- A call that has just been made waits alone.
    rcases Broker.reader_step taken reader waits with ⟨_, old, still⟩ | ⟨kind, asked, rfl⟩
    · rcases Broker.reader_step taken reader' waits' with ⟨_, old', still'⟩ | ⟨_, asked, -⟩
      · exact ih before old still old' still'
      · cases still.symm.trans ((turn_ok _ asked).2 _ _ old)
    · rcases Broker.reader_step taken reader' waits' with ⟨_, old', still'⟩ | ⟨_, -, rfl⟩
      · cases still'.symm.trans ((turn_ok _ asked).2 _ _ old')
      · rfl

theorem taker_of_exhausted
    (trace : Trace service (.fresh config origin world thrownAway) moments last)
    (persistent : ∀ moment ∈ moments, moment.broker.Persistent id moment.turn)
    (exhausted : Exhausted moments last id) (reader : last.Reader id caller phase)
    (waits : phase.reports = false) :
    ∃ value, .took caller id value ∈ history moments := by
  obtain ⟨other, kind, phase', value, found, took, releases⟩ := exhausted
  obtain ⟨_, _, made⟩ := trace.made_of_took (mem_takes.mpr took)
  have waits' : phase'.reports = false := by
    obtain ⟨_, _, there, reached⟩ := trace.call_of_took took
    cases found.symm.trans there
    rcases reached with rfl | rfl | rfl
    · rfl
    · exact unreported_of_releases made releases
    · rfl
  cases trace.alone persistent reader waits ⟨kind, found⟩ waits'
  exact ⟨value, took⟩

theorem live_of_unexhausted
    (trace : Trace service (.fresh config origin world thrownAway) moments last)
    (uncancelled : last.isCancelled id = false) (unexhausted : ¬ Exhausted moments last id) :
    last.run? id = none ∨ last.table.isLive id = true := by
  induction trace with
  | nil => cases id <;> exact .inl rfl
  | @snoc moments broker after turn events earlier taken ih =>
    have formed := earlier.wellFormed
    have before : ¬ Exhausted moments broker id := fun exhausted =>
      unexhausted (exhausted.later taken)
    have unasked : .complete id ∉ broker.queue := by
      intro queued
      obtain ⟨caller, kind, value, sent⟩ := earlier.sent_of_queued rfl rfl queued
      obtain ⟨phase, found⟩ := sent.asked
      exact before ⟨caller, kind, phase, value, found, sent.took, sent.releases⟩
    rcases ih (Broker.isCancelled_step taken uncancelled) before with missing | live
    · obtain ⟨-, -, begun⟩ := Broker.run_begun taken formed.numbered missing
      cases begun with
      | missing none => exact .inl none
      | opened _ _ _ live => exact .inr live
      | orphaned _ _ begun => simp [Broker.isCancelled, begun] at uncancelled
    · exact .inr (Broker.live_step formed taken live unasked uncancelled)

theorem exhausted_of_terminal
    (trace : Trace service (.fresh config origin world thrownAway) moments last)
    {value : ResultValue} (took : .took caller id value ∈ history moments)
    (terminal : value.isTerminal = true) : Exhausted moments last id := by
  obtain ⟨kind, phase, found, -⟩ := trace.call_of_took took
  refine ⟨caller, kind, phase, value, found, took, ?_⟩
  rw [← Bool.not_eq_false]
  intro keeps
  obtain ⟨result, rfl, -⟩ := progress_of_keeps keeps
  cases terminal

theorem unexhausted_of_waiting
    (trace : Trace service (.fresh config origin world thrownAway) moments last)
    (persistent : ∀ moment ∈ moments, moment.broker.Persistent id moment.turn)
    (reader : last.Reader id caller phase) (waits : phase.reports = false)
    (nothing : takenBy caller (history moments) = []) : ¬ Exhausted moments last id := by
  intro exhausted
  obtain ⟨value, took⟩ := trace.taker_of_exhausted persistent exhausted reader waits
  have mine := mem_takenBy.mpr took
  rw [nothing] at mine
  cases mine

theorem begun_of_reader
    (trace : Trace service (.fresh config origin world thrownAway) moments last)
    (positive : 0 < id)
    (persistent : ∀ moment ∈ moments, moment.broker.Persistent id moment.turn)
    (reader : last.Reader id caller phase) : ∃ run, last.run? id = some run := by
  induction trace generalizing caller phase with
  | nil =>
    obtain ⟨_, found⟩ := reader
    cases found
  | @snoc moments broker after turn events earlier taken ih =>
    have before := fun moment among => persistent moment (List.mem_append_left _ among)
    have turn_ok := persistent _ (List.mem_append_right _ (List.mem_singleton.mpr rfl))
    rcases reader.origin taken with ⟨kind, _, found, -⟩ | ⟨kind, asked, -⟩
    · obtain ⟨run, begun⟩ := ih before ⟨kind, found⟩
      obtain ⟨next, there, -⟩ := Broker.run_step taken begun
      exact ⟨next, there⟩
    · have old := (turn_ok kind asked).1
      rw [earlier.wellFormed.numbered] at old
      have known := (broker.run?_isSome_iff id).mpr ⟨positive, Nat.le_of_lt_succ old⟩
      obtain ⟨run, begun⟩ := Option.isSome_iff_exists.mp known
      obtain ⟨next, there, -⟩ := Broker.run_step taken begun
      exact ⟨next, there⟩

end Trace

def Call.Phase.Undenied (taken : List (TransactionId × ResultValue)) : Call.Phase → Prop
  | .told (.refused _) => False
  | .answered _ => taken ≠ []
  | _ => True

namespace Broker

variable {broker after : Broker World Task} {turn : Turn World} {events : List Event}
  {id : TransactionId} {caller : CallId} {kind : Operation.Kind} {phase next : Call.Phase}
  {run : Run Task}

theorem granted_of_live (formed : broker.WellFormed) (uncancelled : broker.isCancelled id = false)
    (live : broker.table.isLive id = true) {reply : DispatcherReply}
    (replies : broker.reply? (.getResult id caller) = some reply) : reply = .granted := by
  rcases broker.reply?_getResult id caller with
    ⟨missing, -⟩ | ⟨slot, found, ⟨cancelled, -⟩ | ⟨-, granted⟩⟩
  · rw [Table.isLive, missing] at live
    cases live
  · obtain ⟨run, begun, signalled⟩ := formed.cancelled id slot found cancelled
    simp [isCancelled, begun, signalled] at uncancelled
  · exact Option.some.inj (replies.symm.trans granted)

theorem undenied_step (formed : broker.WellFormed) (begun : broker.run? id = some run)
    (uncancelled : broker.isCancelled id = false)
    (found : broker.calls[caller]? = some { request := .collect kind id, phase })
    {taken : List (TransactionId × ResultValue)}
    (account : Call.Account { request := .collect kind id, phase } taken)
    (undenied : phase.Undenied taken) (live : phase = .awaiting → broker.table.isLive id = true)
    (unspent : phase = .reading → ¬ (run.buffer = [] ∧ run.hasEnded = true))
    (step : CallStep broker after caller { request := .collect kind id, phase } turn events next) :
    next.Undenied (taken ++ takenBy caller events) := by
  have up : broker.shutdown = false ∧ run.cancelled = false := by
    simpa [isCancelled, begun] using uncancelled
  cases step with
  | kept _ quiet =>
    rw [takenBy_quiet quiet, List.append_nil]
    exact undenied
  | @told action queue later reply waits _ head asks replies =>
    obtain ⟨_, there, same, -⟩ := formed.asked action (head ▸ List.mem_cons_self) caller asks
    cases there.symm.trans found
    cases same
    cases granted_of_live formed uncancelled (live waits) replies
    trivial
  | abandoned => trivial
  | progressed progresses =>
    obtain ⟨due, running⟩ := accepts_of_pending formed up.1 begun found progresses.pending
    cases progresses with
    | preempted down => cases up.1.symm.trans down
    | closed _ gone => cases (accepts_of_running running).symm.trans gone
    | queued | opened | tookLast => trivial
    | @learned _ reply _ _ known =>
      have sound := formed.sound caller _ found
      cases reply with
      | granted => cases known
      | refused => exact undenied.elim
      | opened =>
        obtain ⟨_, asked⟩ := sound
        cases asked
      | listing => cases sound
    | stranded there closed =>
      cases begun.symm.trans there
      rcases closed with down | cancelled | spent
      · cases up.1.symm.trans down
      · cases up.2.symm.trans cancelled
      · exact absurd spent (unspent rfl)
    | tookProgress => simp [Call.Phase.Undenied, takenBy]
    | unreleased | released =>
      obtain ⟨value, rfl, -⟩ := account
      exact List.cons_ne_nil _ _

end Broker

namespace Trace

variable {config : Config} {origin : Timestamp} {world : World} {thrownAway : List TransactionId}
  {moments : List (Moment World Task)} {last : Broker World Task} {id : TransactionId}
  {caller : CallId} {kind : Operation.Kind} {phase : Call.Phase}

theorem undenied (trace : Trace service (.fresh config origin world thrownAway) moments last)
    (carried : id ∉ thrownAway) (positive : 0 < id) (uncancelled : last.isCancelled id = false)
    (persistent : ∀ moment ∈ moments, moment.broker.Persistent id moment.turn)
    (found : last.calls[caller]? = some { request := .collect kind id, phase }) :
    phase.Undenied (takenBy caller (history moments)) := by
  induction trace generalizing caller kind phase with
  | nil => cases found
  | @snoc moments broker after turn events earlier taken ih =>
    have before := fun moment among => persistent moment (List.mem_append_left _ among)
    have still := Broker.isCancelled_step taken uncancelled
    rw [history_append, history_singleton, takenBy_append]
    rcases Broker.Reader.origin taken ⟨kind, found⟩ with
      ⟨kind, phase, found, step⟩ | ⟨_, -, -, rfl⟩
    · have account := (earlier.account caller).2 _ found
      obtain ⟨run, begun⟩ := earlier.begun_of_reader positive before ⟨kind, found⟩
      have unexhausted (waits : phase.reports = false)
          (nothing : takenBy caller (history moments) = []) : ¬ Exhausted moments broker id :=
        earlier.unexhausted_of_waiting before ⟨kind, found⟩ waits nothing
      refine Broker.undenied_step earlier.wellFormed begun still found account
        (ih still before found) ?_ ?_ step
      · rintro rfl
        rcases earlier.live_of_unexhausted still (unexhausted rfl account) with missing | live
        · cases missing.symm.trans begun
        · exact live
      · rintro rfl ⟨empty, ended⟩
        have up : broker.shutdown = false ∧ run.cancelled = false := by
          simpa [Broker.isCancelled, begun] using still
        obtain ⟨_, _, -, took, terminal⟩ :=
          earlier.outrun_of_exhausted carried up.1 found begun up.2 empty ended
        exact unexhausted rfl account (earlier.exhausted_of_terminal took terminal)
    · trivial

/-- A call that asks for a result until it is there is answered with a value of the transaction. -/
theorem took_of_persistent
    (trace : Trace service (.fresh config origin world thrownAway) moments last)
    (carried : id ∉ thrownAway) (positive : 0 < id) (uncancelled : last.isCancelled id = false)
    (persistent : ∀ moment ∈ moments, moment.broker.Persistent id moment.turn)
    {outcome : Outcome} (found : last.calls[caller]? =
      some { request := .collect kind id, phase := .answered outcome }) :
    ∃ value, (caller, value) ∈ takes id (history moments) ∧
      outcome = (kind.judge id value).outcome := by
  have undenied := trace.undenied carried positive uncancelled persistent found
  rcases (trace.account caller).2 _ found with ⟨value, mine, answered⟩ | ⟨nothing, -⟩
  · exact ⟨value, mem_takes.mpr (took_of_sole mine), answered⟩
  · exact absurd nothing undenied

end Trace

end InstanceBroker
