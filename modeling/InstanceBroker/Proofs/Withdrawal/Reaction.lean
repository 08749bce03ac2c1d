import InstanceBroker.Proofs.Withdrawal.Schedule

namespace InstanceBroker

variable {World Task : Type} {service : Service World Task}

def Input.renamed (place : CallId → CallId) : Input → Input
  | .abandon call => .abandon (place call)
  | input => input

namespace Broker

variable {broker bare last : Broker World Task} {caller other : CallId} {id : TransactionId}
  {events : List Event}

section Inputs

theorem calls_abandon (broker : Broker World Task) (caller other : CallId) :
    (broker.abandon caller).calls[other]? = if other = caller then
      (broker.calls[caller]?).map fun call =>
        if call.isPending then { call with phase := .abandoned } else call
    else broker.calls[other]? := by
  simp only [abandon, List.getElem?_modify]
  by_cases own : other = caller
  · subst own
    simp
  · simp [own, Ne.symm own]

theorem Without.request (without : broker.Without caller id bare) (request : Request) :
    (broker.receive (.request request)).Without caller id (bare.receive (.request request)) := by
  have reach : bare.reachable = broker.reachable := by
    obtain ⟨queue, table, calls, rfl⟩ := without.frame
    rfl
  simp only [Broker.receive, reach]
  split
  · obtain ⟨⟨queue, table, calls, rfl⟩, queued, fades, others, count, inside⟩ := without
    have related : Call.Fades id { request } { request } := ⟨rfl, .same⟩
    exact ⟨⟨_, _, _, rfl⟩, queued, fades,
      fun other apart => rel_snoc_skip others count inside related apart, by simp [count],
      by simpa using Nat.lt_succ_of_lt inside⟩
  · exact without

theorem Without.abandon (without : broker.Without caller id bare) (apart : other ≠ caller) :
    (broker.abandon other).Without caller id (bare.abandon (skip caller other)) := by
  refine ⟨?frame, without.queue, without.table, fun another apart' => ?_, ?count, ?inside⟩
  case frame =>
    obtain ⟨⟨queue, table, calls, rfl⟩, _⟩ := without
    exact ⟨_, _, _, rfl⟩
  case count => simpa [Broker.abandon] using without.count
  case inside => simpa [Broker.abandon] using without.inside
  simp only [calls_abandon, skip_inj apart' apart]
  split
  · refine rel_map (without.others other apart) fun call call' same => ?_
    rw [same.isPending_eq]
    split
    · exact ⟨same.request, .same⟩
    · exact same
  · exact without.others another apart'

theorem Alongside.withWorld (service : Service World Task)
    (alongside : broker.Alongside caller id bare) (change : World → World) :
    { broker with world := change broker.world }.Alongside caller id
      { bare with world := change bare.world } := by
  have ⟨sane, idles, unread, beside⟩ := alongside
  have taken : broker.turn? service (.world (change broker.world)) = some (_, []) := rfl
  refine ⟨sane.step taken,
    idles.imp (fun waiting => waiting) fun ⟨there, queue⟩ => ⟨there, queue⟩,
    fun ⟨holds, dead, alone, left⟩ => unread ⟨holds, dead, alone, left⟩, ?_⟩
  rcases beside with without | ceased
  · have same : bare.world = broker.world := by
      obtain ⟨queue, table, calls, rfl⟩ := without.frame
      rfl
    rw [same]
    exact .inl (without.withWorld _)
  · have taken' : bare.turn? service (.world (change bare.world)) = some (_, []) := rfl
    exact .inr ((ceased.step taken).beside taken')

theorem Without.receive (without : broker.Without caller id bare) {input : Input}
    (spared : input ≠ .abandon caller) :
    (broker.receive input).Without caller id (bare.receive (input.renamed (skip caller))) := by
  cases input with
  | request request => exact without.request request
  | abandon other => exact without.abandon fun own => spared (congrArg Input.abandon own)
  | tick | shutdown | close =>
    obtain ⟨⟨queue, table, calls, rfl⟩, queued, fades, others, count, inside⟩ := without
    exact ⟨⟨_, _, _, rfl⟩, queued, fades, others, count, inside⟩
  | startDispatcher =>
    obtain ⟨⟨queue, table, calls, rfl⟩, queued, fades, others, count, inside⟩ := without
    simp only [Broker.receive, Input.renamed, startDispatcher]
    split <;> exact ⟨⟨_, _, _, rfl⟩, queued, fades, others, count, inside⟩
  | dropDispatcher =>
    obtain ⟨⟨queue, table, calls, rfl⟩, queued, fades, others, count, inside⟩ := without
    simp only [Broker.receive, Input.renamed, dropDispatcher]
    split <;> exact ⟨⟨_, _, _, rfl⟩, queued, fades, others, count, inside⟩

theorem Alongside.receive (service : Service World Task)
    (alongside : broker.Alongside caller id bare) {input : Input}
    (spared : input ≠ .abandon caller) :
    (¬ broker.GivenUp caller ∧ (broker.receive input).Bound caller id) ∨
      (broker.receive input).Alongside caller id (bare.receive (input.renamed (skip caller))) := by
  have taken : broker.turn? service (.input input) = some (broker.receive input, []) := rfl
  rcases alongside.onward taken with bound | ⟨goes, unread, _⟩
  · exact .inl bound
  · refine .inr ⟨alongside.sane.step taken, goes.imp And.right And.right, unread, ?_⟩
    rcases alongside.beside with without | ceased
    · exact .inl (without.receive spared)
    · have taken' : bare.turn? service (.input (input.renamed (skip caller))) = some _ := rfl
      exact .inr ((ceased.step taken).beside taken')

theorem Without.made (formed : broker.WellFormed) (reachable : broker.reachable = true)
    (request : Request) (id : TransactionId) :
    (broker.receive (.request request)).Without broker.calls.length id broker := by
  have received : broker.receive (.request request) =
      { broker with calls := broker.calls ++ [{ request }] } := if_pos reachable
  rw [received]
  refine ⟨⟨_, _, _, rfl⟩, ?queue, .same, fun other apart => ?_, by simp, by simp⟩
  case queue =>
    refine (remaining_of_earlier fun action queued other asks => ?_).symm
    obtain ⟨_, there, _⟩ := formed.asked action queued other asks
    exact (List.getElem?_eq_some_iff.mp there).1
  rcases Nat.lt_or_gt_of_ne apart with old | beyond
  · have place : skip broker.calls.length other = other := if_pos old
    rw [List.getElem?_append_left old, place]
    cases broker.calls[other]? with
    | none => exact .none
    | some call => exact .some ⟨rfl, .same⟩
  · have place : skip broker.calls.length other = other - 1 := skip_of_lt beyond
    rw [List.getElem?_eq_none (by simpa using Nat.succ_le_of_lt beyond), place,
      List.getElem?_eq_none (Nat.le_sub_one_of_lt beyond)]
    exact .none

theorem Sane.alongside (service : Service World Task) (sane : broker.Sane)
    (reachable : broker.reachable = true) (kind : Operation.Kind) (id : TransactionId) :
    (broker.receive (.request (.collect kind id))).Alongside broker.calls.length id broker := by
  have taken : broker.turn? service (.input (.request (.collect kind id))) = some (_, []) := rfl
  have there : (broker.receive (.request (.collect kind id))).calls[broker.calls.length]? =
      some { request := .collect kind id } := by
    simp [receive, reachable]
  refine ⟨sane.step taken, .inl ⟨kind, .submitting, there, rfl⟩, ?_,
    .inl (.made sane.formed reachable _ id)⟩
  rintro ⟨⟨call, there', holds⟩, _⟩
  cases there.symm.trans there'
  cases holds

theorem abandon_eq_setPhase {call : Call} (there : broker.calls[caller]? = some call)
    (pending : call.isPending = true) :
    broker.abandon caller = broker.setPhase caller .abandoned := by
  have calls : (broker.abandon caller).calls = (broker.setPhase caller .abandoned).calls := by
    refine List.ext_getElem? fun other => ?_
    rw [calls_abandon, calls_setPhase, there]
    simp [pending]
  simp only [abandon, setPhase] at calls ⊢
  rw [calls]

theorem bound_of_abandon {call : Call} (there : broker.calls[caller]? = some call) :
    (broker.abandon caller).Bound caller id := by
  refine .inr ⟨_, by rw [calls_abandon, if_pos rfl, there]; rfl, ?_⟩
  obtain ⟨request, phase⟩ := call
  cases phase <;> rfl

/-- That a call which is pending in a settled broker is given up makes no difference to the broker
that lacks it. -/
theorem Alongside.abandon (alongside : broker.Alongside caller id bare)
    (settled : broker.Settled service) {call : Call} (there : broker.calls[caller]? = some call)
    (pending : call.isPending = true) :
    (broker.abandon caller).GivenUp caller ∧
      (broker.abandon caller).Alongside caller id bare := by
  have ⟨sane, _, _, beside⟩ := alongside
  have taken : broker.turn? service (.input (.abandon caller)) = some (broker.abandon caller, []) :=
    rfl
  have idle := (reads_of_settled sane.formed sane.manned sane.roomy settled there pending).1
  have ended := abandon_eq_setPhase there pending
  have givenUp : (broker.abandon caller).GivenUp caller := by
    refine ⟨⟨call.request, ?_⟩, fun action queued => ?_⟩
    · rw [ended, calls_setPhase, if_pos rfl, there]
      rfl
    · rw [ended] at queued
      exact absurd (idle ▸ queued) List.not_mem_nil
  refine ⟨givenUp, sane.step taken, .inr givenUp, not_soleReader_of_givenUp givenUp, ?_⟩
  rcases beside with without | ceased
  · rw [ended]
    exact .inl (without.setPhase_self _)
  · exact .inr (ceased.step taken)

end Inputs

section Reacting

variable {settling : Settling World Task} {inputs : List Input}

theorem Reacts.trace (heedless : Heedless service settling)
    (reacts : Reacts settling broker inputs events last) :
    ∃ moments, Trace service broker moments last := by
  induction reacts with
  | nil => exact ⟨_, .nil⟩
  | @cons broker middle last input inputs events later settles _ ih =>
    have taken : broker.turn? service (.input input) = some (broker.receive input, []) := rfl
    obtain ⟨_, settled⟩ := (heedless.drifts settles).trace
    obtain ⟨_, onward⟩ := ih
    exact ⟨_, ((Trace.single taken).append settled).append onward⟩

theorem count_receive {input : Input} (unasked : input.request? = none) :
    (broker.receive input).calls.length = broker.calls.length := by
  cases input with
  | request => cases unasked
  | tick | shutdown | close => rfl
  | startDispatcher =>
    simp only [receive, startDispatcher]
    split <;> rfl
  | dropDispatcher =>
    simp only [receive, dropDispatcher]
    split <;> rfl
  | abandon other => exact List.length_modify ..

theorem Reacts.count_eq (heedless : Heedless service settling)
    (unasked : ∀ input ∈ inputs, input.request? = none)
    (reacts : Reacts settling broker inputs events last) :
    last.calls.length = broker.calls.length := by
  induction reacts with
  | nil => rfl
  | @cons broker middle last input inputs events later settles _ ih =>
    rw [ih fun _ among => unasked _ (List.mem_cons_of_mem _ among),
      (heedless.drifts settles).count_eq, count_receive (unasked _ List.mem_cons_self)]

theorem Reacts.beside (heedless : Heedless service settling)
    (alongside : broker.Alongside caller id bare) (spared : .abandon caller ∉ inputs)
    (reacts : Reacts settling broker inputs events last) :
    Matches caller id broker events last
      (Reacts settling bare (inputs.map (·.renamed (skip caller)))) := by
  induction reacts generalizing bare with
  | nil => exact .inr ⟨_, _, .nil, alongside, .nil⟩
  | @cons broker middle last input inputs events later settles reacts ih =>
    simp only [List.mem_cons, not_or] at spared
    have taken : broker.turn? service (.input input) = some (broker.receive input, []) := rfl
    have onward := reacts.trace heedless
    obtain ⟨_, settled⟩ := (heedless.drifts settles).trace
    have entry : Matches caller id broker [] (broker.receive input) fun events' bare' =>
        events' = [] ∧ bare' = bare.receive (input.renamed (skip caller)) := by
      rcases alongside.receive service (Ne.symm spared.1) with bound | beside
      · exact .inl bound
      · exact .inr ⟨_, _, ⟨rfl, rfl⟩, beside, .nil⟩
    have first : Matches caller id broker ([] ++ events) middle
        (settling (bare.receive (input.renamed (skip caller)))) :=
      .append alongside.sane ⟨_, .single taken⟩ ⟨_, settled⟩ entry
        (fun _ beside => heedless.beside beside settles) fun _ _ _ _ same settles' => by
          obtain ⟨rfl, rfl⟩ := same
          exact settles'
    exact first.append alongside.sane ⟨_, (Trace.single taken).append settled⟩ onward
      (fun _ beside => ih beside spared.2) fun _ _ _ _ settles' reacts' => .cons settles' reacts'

end Reacting

end Broker

end InstanceBroker
