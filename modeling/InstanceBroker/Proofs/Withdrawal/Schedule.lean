import InstanceBroker.Proofs.Isolation.Reaction
import InstanceBroker.Proofs.Withdrawal.Alongside

namespace InstanceBroker

variable {World Task : Type} {service : Service World Task}

namespace Broker

section Chains

inductive Chain (goes : Broker World Task → Step World Task → Prop)
    (rests : Broker World Task → Prop) : Settling World Task
  | still {broker : Broker World Task} (still : rests broker) : Chain goes rests broker [] broker
  | moved {broker middle last : Broker World Task} {events later : List Event}
      (gone : goes broker (middle, events)) (chain : Chain goes rests middle later last) :
      Chain goes rests broker (events ++ later) last

/-- The participants move in some order, and the next input need not wait until all are blocked. -/
def Drifts (service : Service World Task) : Settling World Task :=
  Chain (Fires service) fun _ => True

variable {broker bare middle last last' : Broker World Task} {events events' later : List Event}
  {goes goes' : Broker World Task → Step World Task → Prop}
  {rests rests' : Broker World Task → Prop}

theorem Chain.append (first : Chain goes rests broker events middle)
    (next : Chain goes rests middle later last) :
    Chain goes rests broker (events ++ later) last := by
  induction first with
  | still => exact next
  | moved goes _ ih =>
    rw [List.append_assoc]
    exact .moved goes (ih next)

theorem Chain.drifts (chain : Chain goes rests broker events last)
    (fires : ∀ broker step, goes broker step → Fires service broker step) :
    Drifts service broker events last := by
  induction chain with
  | still => exact .still trivial
  | moved goes _ ih => exact .moved (fires _ _ goes) ih

theorem Chain.halt (chain : Chain goes rests broker events last) (still : rests' last) :
    Chain goes rests' broker events last := by
  induction chain with
  | still => exact .still still
  | moved goes _ ih => exact .moved goes (ih still)

theorem Settles.chain (settles : Settles service broker events last) :
    Chain (Fires service) (Settled service) broker events last := by
  induction settles with
  | still settled => exact .still settled
  | moved fired _ ih => exact .moved ⟨_, fired⟩ ih

theorem Chain.settles (chain : Chain (Fires service) (Settled service) broker events last) :
    Settles service broker events last := by
  induction chain with
  | still settled => exact .still settled
  | moved goes _ ih =>
    obtain ⟨_, fired⟩ := goes
    exact .moved fired ih

theorem GoesNext.fires (broker : Broker World Task) (step : Step World Task)
    (next : GoesNext service broker step) : Fires service broker step := fired_of_next? next

theorem chain_settleWithin (service : Service World Task) (moves : Nat)
    (broker : Broker World Task) :
    Chain (GoesNext service) (fun _ => True) broker (settleWithin service moves broker).2
      (settleWithin service moves broker).1 := by
  induction moves generalizing broker with
  | zero => exact .still trivial
  | succ moves ih =>
    simp only [settleWithin]
    split
    · exact .still trivial
    · rename_i next
      exact .moved next (ih _)

theorem chain_settle (tires : service.Tires) (paced : broker.Paced) :
    Chain (GoesNext service) (Settled service) broker (broker.settle service).2
      (broker.settle service).1 :=
  (chain_settleWithin service _ broker).halt (settled_settle tires paced)

theorem Chain.unique (chain : Chain (GoesNext service) (Settled service) broker events last)
    (chain' : Chain (GoesNext service) (Settled service) broker events' last') :
    events' = events ∧ last' = last := by
  induction chain generalizing events' with
  | still settled =>
    cases chain' with
    | still => exact ⟨rfl, rfl⟩
    | moved goes => exact absurd ((settled_iff.mp settled).symm.trans goes) nofun
  | moved goes _ ih =>
    cases chain' with
    | still settled => exact absurd ((settled_iff.mp settled).symm.trans goes) nofun
    | moved goes' chain' =>
      cases Option.some.inj (Eq.trans (Eq.symm goes) goes')
      obtain ⟨rfl, rfl⟩ := ih chain'
      exact ⟨rfl, rfl⟩

theorem settlesInOrder_iff (tires : service.Tires) (paced : broker.Paced) :
    SettlesInOrder service broker events last ↔
      Chain (GoesNext service) (Settled service) broker events last := by
  have chain := chain_settle tires paced
  constructor
  · intro settles
    rwa [settles] at chain
  · intro chain'
    obtain ⟨rfl, rfl⟩ := chain.unique chain'
    rfl

end Chains

section Onward

variable {broker bare last : Broker World Task} {events : List Event} {caller : CallId}
  {id : TransactionId} {moments : List (Moment World Task)}

theorem Drifts.trace (drifts : Drifts service broker events last) :
    ∃ moments, Trace service broker moments last := by
  induction drifts with
  | still => exact ⟨_, .nil⟩
  | moved goes _ ih =>
    obtain ⟨move, fired⟩ := goes
    obtain ⟨moments, trace⟩ := ih
    have taken : Broker.turn? service _ (.move move) = some _ := fired
    exact ⟨_, (Trace.single taken).append trace⟩

theorem Paced.trace (paced : broker.Paced) (trace : Trace service broker moments last) :
    last.Paced := by
  induction trace with
  | nil => exact paced
  | snoc _ taken ih => exact paced_step ih taken

theorem Drifts.paced (drifts : Drifts service broker events last) (paced : broker.Paced) :
    last.Paced := by
  obtain ⟨_, trace⟩ := drifts.trace
  exact paced.trace trace

theorem Drifts.reachable_eq (drifts : Drifts service broker events last) :
    last.reachable = broker.reachable := by
  induction drifts with
  | still => rfl
  | moved goes _ ih =>
    obtain ⟨move, fired⟩ := goes
    exact ih.trans (settings_of_fire? fired).2.1

theorem Drifts.count_eq (drifts : Drifts service broker events last) :
    last.calls.length = broker.calls.length := by
  induction drifts with
  | still => rfl
  | moved goes _ ih =>
    obtain ⟨move, fired⟩ := goes
    have same := congrArg List.length (requests_of_fire? fired)
    rw [requests, requests, List.length_map, List.length_map] at same
    exact ih.trans same

theorem Drifts.of_settled (drifts : Drifts service broker events last)
    (settled : broker.Settled service) : events = [] ∧ last = broker := by
  cases drifts with
  | still => exact ⟨rfl, rfl⟩
  | moved goes =>
    obtain ⟨move, fired⟩ := goes
    rw [settled] at fired
    cases fired

theorem Drifts.answered (drifts : Drifts service broker events last) {other : CallId}
    {outcome : Outcome} (among : (other, outcome) ∈ answers events) :
    other < broker.calls.length := by
  induction drifts with
  | still => cases among
  | @moved broker middle last events later goes chain ih =>
    obtain ⟨move, fired⟩ := goes
    rw [answers, List.filterMap_append] at among
    rcases List.mem_append.mp among with now | then_
    · obtain ⟨_, call, there, _⟩ := asker_of_answers fired now
      exact (List.getElem?_eq_some_iff.mp there).1
    · have same := congrArg List.length (requests_of_fire? fired)
      rw [requests, requests, List.length_map, List.length_map] at same
      exact Nat.lt_of_lt_of_eq (ih then_) same

theorem Sane.trace (sane : broker.Sane) (trace : Trace service broker moments last) :
    last.Sane := by
  induction trace with
  | nil => exact sane
  | snoc _ taken ih => exact ih.step taken

theorem GivenUp.trace (givenUp : broker.GivenUp caller)
    (trace : Trace service broker moments last) : last.GivenUp caller := by
  induction trace with
  | nil => exact givenUp
  | snoc _ taken ih => exact (ih.step taken).1

theorem Bound.trace (sane : broker.Sane) (bound : broker.Bound caller id)
    (trace : Trace service broker moments last) : last.Bound caller id := by
  induction trace with
  | nil => exact bound
  | snoc earlier taken ih => exact ih.step (sane.trace earlier).formed taken

theorem Over.beside {turn : Turn World} {after : Broker World Task}
    (ceased : broker.Over caller bare)
    (taken : bare.turn? service turn = some (after, events)) : broker.Over caller after where
  unreachable := ceased.unreachable
  done := ceased.done
  silent := hasSenders_step taken ceased.silent (settings_step taken).2.2.2.2
  paced := paced_step ceased.paced taken

theorem Over.drifts (ceased : broker.Over caller bare) (drifts : Drifts service bare events last) :
    broker.Over caller last ∧ answers events = [] := by
  induction drifts with
  | still => exact ⟨ceased, rfl⟩
  | @moved bare middle last events later goes _ ih =>
    obtain ⟨move, fired⟩ := goes
    have taken : bare.turn? service (.move move) = some (middle, events) := fired
    obtain ⟨ceased', silent⟩ := ih (ceased.beside taken)
    have mute : answers events = [] := by
      refine List.eq_nil_iff_forall_not_mem.mpr ?_
      rintro ⟨other, outcome⟩ among
      obtain ⟨_, call, there, pending⟩ := asker_of_answers fired among
      have senders := ceased.silent
      simp only [hasSenders, Bool.or_eq_false_iff, List.any_eq_false] at senders
      exact absurd pending (senders.2 call (List.mem_of_getElem? there))
    refine ⟨ceased', ?_⟩
    rw [answers, List.filterMap_append, ← answers, ← answers, mute, silent]
    rfl

end Onward

section Beside

variable {broker bare last : Broker World Task} {events : List Event} {caller : CallId}
  {id : TransactionId} {goes : Broker World Task → Step World Task → Prop}
  {rests : Broker World Task → Prop}

theorem Alongside.paced (alongside : broker.Alongside caller id bare) : bare.Paced := by
  rcases alongside.beside with without | ceased
  · obtain ⟨queue, table, calls, rfl⟩ := without.frame
    exact alongside.sane.paced
  · exact ceased.paced

theorem Matches.append {middle : Broker World Task} {later : List Event}
    {other whole : List Event → Broker World Task → Prop}
    {other' : Broker World Task → List Event → Broker World Task → Prop} (sane : broker.Sane)
    (earlier : ∃ moments, Trace service broker moments middle)
    (onward : ∃ moments, Trace service middle moments last)
    (first : Matches caller id broker events middle other)
    (next : ∀ bare, middle.Alongside caller id bare →
      Matches caller id middle later last (other' bare))
    (joined : ∀ events' middle' later' last', other events' middle' →
      other' middle' later' last' → whole (events' ++ later') last') :
    Matches caller id broker (events ++ later) last whole := by
  obtain ⟨_, earlier⟩ := earlier
  obtain ⟨_, onward⟩ := onward
  rcases first with ⟨never, bound⟩ | ⟨events', middle', goes, beside, told⟩
  · exact .inl ⟨never, bound.trace (sane.trace earlier) onward⟩
  · rcases next middle' beside with ⟨never, bound⟩ | ⟨later', last', goes', beside', told'⟩
    · exact .inl ⟨fun givenUp => never (givenUp.trace earlier), bound⟩
    · refine .inr ⟨_, last', joined _ _ _ _ goes goes', beside', ?_⟩
      rw [answers, answers, List.filterMap_append, List.filterMap_append]
      exact List.rel_append told told'

theorem Chain.beside
    (moves : ∀ {broker bare after : Broker World Task} {events : List Event},
      broker.Alongside caller id bare → goes broker (after, events) →
        Matches caller id broker events after (AtMost goes bare))
    (halts : ∀ {broker bare : Broker World Task}, broker.Alongside caller id bare →
      rests broker →
      Matches caller id broker [] broker (Chain goes rests bare))
    (fires : ∀ broker step, goes broker step → Fires service broker step)
    (alongside : broker.Alongside caller id bare) (chain : Chain goes rests broker events last) :
    Matches caller id broker events last (Chain goes rests bare) := by
  induction chain generalizing bare with
  | still still => exact halts alongside still
  | @moved broker middle last events later gone chain ih =>
    obtain ⟨move, fired⟩ := fires _ _ gone
    have taken : broker.turn? service (.move move) = some (middle, events) := fired
    refine .append alongside.sane ⟨_, .single taken⟩ (chain.drifts fires).trace
      (moves alongside gone) (fun _ beside => ih beside) fun _ _ _ _ gone' chain' => ?_
    rcases gone' with ⟨rfl, rfl⟩ | gone'
    · exact chain'
    · exact .moved gone' chain'

/-- A way to settle in which it makes no difference to the others whether the call is there. -/
structure Heedless (service : Service World Task) (settling : Settling World Task) : Prop where
  drifts : ∀ {broker last : Broker World Task} {events : List Event},
    settling broker events last → Drifts service broker events last
  append : ∀ {broker middle last : Broker World Task} {events later : List Event},
    broker.Paced →
    settling broker events middle → settling middle later last →
      settling broker (events ++ later) last
  beside : ∀ {broker bare last : Broker World Task} {events : List Event} {caller : CallId}
    {id : TransactionId}, broker.Alongside caller id bare → settling broker events last →
      Matches caller id broker events last (settling bare)

theorem Alongside.halts (alongside : broker.Alongside caller id bare)
    (settled : broker.Settled service)
    (fires : ∀ broker step, goes broker step → Fires service broker step)
    (rest : ∃ events last, Chain goes (Settled service) bare events last) :
    Matches caller id broker [] broker (Chain goes (Settled service) bare) := by
  right
  rcases alongside.settled settled with settled' | ceased
  · exact ⟨_, _, .still settled', alongside, .nil⟩
  · obtain ⟨events', last', chain⟩ := rest
    obtain ⟨ceased', silent⟩ := ceased.drifts (chain.drifts fires)
    refine ⟨events', last', chain,
      ⟨alongside.sane, alongside.idles, alongside.unread, .inr ceased'⟩, ?_⟩
    rw [silent]
    exact .nil

theorem heedless_drifts (service : Service World Task) : Heedless service (Drifts service) where
  drifts drifts := drifts
  append _ first next := first.append next
  beside alongside drifts := drifts.beside Alongside.fires
    (fun beside _ => .inr ⟨_, _, .still trivial, beside, .nil⟩)
    (fun _ _ fires => fires) alongside

theorem heedless_settles (tires : service.Tires) : Heedless service (Settles service) where
  drifts settles := settles.chain.drifts fun _ _ fires => fires
  append _ first next := (first.chain.append next.chain).settles
  beside {_ _ _ _ caller id} alongside settles := by
    have halts {broker bare : Broker World Task} (beside : broker.Alongside caller id bare)
        (settled : broker.Settled service) :=
      beside.halts settled (fun _ _ fires => fires)
        ⟨_, _, (settles_settle tires beside.paced).chain⟩
    exact (settles.chain.beside Alongside.fires halts (fun _ _ fires => fires) alongside).imp
      fun _ _ chain => chain.settles

theorem heedless_settlesInOrder (tires : service.Tires) :
    Heedless service (SettlesInOrder service) where
  drifts {broker _ _} settles := by
    have drifts := (chain_settleWithin service (broker.effort service) broker).drifts GoesNext.fires
    have settles : settleWithin service (broker.effort service) broker = _ := settles
    rwa [settles] at drifts
  append paced first next := by
    have chain := (settlesInOrder_iff tires paced).mp first
    have paced' := (chain.drifts GoesNext.fires).paced paced
    have chain' := (settlesInOrder_iff tires paced').mp next
    exact (settlesInOrder_iff tires paced).mpr (chain.append chain')
  beside {_ _ _ _ caller id} alongside settles := by
    have chain := (settlesInOrder_iff tires alongside.sane.paced).mp settles
    have halts {broker bare : Broker World Task} (beside : broker.Alongside caller id bare)
        (settled : broker.Settled service) :=
      beside.halts settled GoesNext.fires
        ⟨_, _, chain_settle tires beside.paced⟩
    exact (chain.beside Alongside.next halts GoesNext.fires alongside).imp
      fun _ _ chain' => (settlesInOrder_iff tires alongside.paced).mpr chain'

end Beside

end Broker

end InstanceBroker
