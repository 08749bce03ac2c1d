import InstanceBroker.Proofs.Effort
import InstanceBroker.Proofs.Isolation.Visible

namespace InstanceBroker

variable {World Task : Type} {service : Service World Task}

namespace Broker

variable {broker after : Broker World Task} {id : TransactionId} {wipe : World → World}
  {events : List Event}

section Steady

theorem settings_of_fire? {move : Move} (fired : broker.fire? service move = some (after, events)) :
    after.shutdown = broker.shutdown ∧ after.reachable = broker.reachable ∧
      ((∃ due, broker.dispatcher = .running due) →
        broker.shutdown = false → broker.hasSenders = true →
          ∃ due, after.dispatcher = .running due) := by
  have taken : broker.turn? service (.move move) = some (after, events) := fired
  cases turns_of_turn? taken with
  | dispatched running dispatches =>
    cases dispatches with
    | stopped final =>
      rw [stop_frame]
      refine ⟨rfl, rfl, fun _ up senders => ?_⟩
      rcases final with down | ⟨_, silent⟩
      · rw [up] at down
        cases down
      · rw [senders] at silent
        cases silent
    | handled _ _ handles =>
      rw [handles.frame]
      exact ⟨rfl, rfl, fun running _ _ => running⟩
    | swept =>
      rw [sweep_frame]
      exact ⟨rfl, rfl, fun _ _ _ => ⟨_, rfl⟩⟩
  | advanced =>
    rw [(advanced_frame ..).1]
    exact ⟨rfl, rfl, fun running _ _ => running⟩
  | progressed =>
    rw [(moved_frame ..).1]
    exact ⟨rfl, rfl, fun running _ _ => running⟩

theorem requests_of_fire? {move : Move} (fired : broker.fire? service move = some (after, events)) :
    after.requests = broker.requests := by
  have taken : broker.turn? service (.move move) = some (after, events) := fired
  rcases requests_step taken with same | ⟨_, input, _⟩
  · exact same
  · cases input

theorem Steady.move (steady : broker.Steady) {move : Move}
    (fired : broker.fire? service move = some (after, events)) : after.Steady := by
  have taken : broker.turn? service (.move move) = some (after, events) := fired
  obtain ⟨shutdown, reachable, running⟩ := settings_of_fire? fired
  have config : after.config = broker.config := (settings_step taken).1
  refine ⟨steady.formed.step taken, reachable.trans steady.reachable, ?_, ?_, fun up => ?_⟩
  · rw [config]
    exact steady.unswept
  · rw [config]
    exact steady.roomy
  · rw [shutdown] at up
    exact running (steady.running up) up (by simp [hasSenders, steady.reachable])

theorem Steady.input (service : Service World Task) (steady : broker.Steady) {input : Input}
    (open_ : input ≠ .close) : (broker.receive input).Steady := by
  have taken : broker.turn? service (.input input) = some (broker.receive input, []) := rfl
  have config : (broker.receive input).config = broker.config := (settings_step taken).1
  refine ⟨steady.formed.step taken, ?_, ?_, ?_, ?_⟩
  · cases input with
    | close => exact absurd rfl open_
    | request => simp only [receive, steady.reachable, if_true]
    | startDispatcher => simp only [receive, startDispatcher]; split <;> exact steady.reachable
    | dropDispatcher => simp only [receive, dropDispatcher]; split <;> exact steady.reachable
    | tick | shutdown | abandon => exact steady.reachable
  · rw [config]
    exact steady.unswept
  · rw [config]
    exact steady.roomy
  · cases input with
    | shutdown =>
      intro up
      cases up
    | request => simp only [receive, steady.reachable, if_true]; exact steady.running
    | startDispatcher =>
      simp only [receive, startDispatcher]
      split
      · exact fun _ => ⟨_, rfl⟩
      · exact steady.running
    | dropDispatcher =>
      simp only [receive, dropDispatcher]
      split
      · rename_i idle
        intro up
        obtain ⟨due, running⟩ := steady.running up
        cases idle.symm.trans running
      · exact steady.running
    | tick | close | abandon => exact steady.running

theorem Steady.paced (steady : broker.Steady) : broker.Paced := by
  intro limited
  rw [steady.unswept] at limited
  cases limited

theorem Steady.uncrowded (steady : broker.Steady)
    (blocked : broker.fire? service .dispatcher = none) : ¬ broker.Crowded id wipe := by
  intro crowded
  obtain ⟨due, running⟩ := steady.running crowded.up
  have idle := queue_of_blocked running crowded.up blocked
  have room : broker.hasRoom = true := by simp [hasRoom, idle, steady.roomy]
  rw [crowded.full] at room
  cases room

end Steady

section Answers

theorem answersBesides_congr {other : Broker World Task} (same : other.requests = broker.requests)
    (events : List Event) : other.answersBesides id events = broker.answersBesides id events := by
  have spared (caller : CallId) : (other.calls[caller]?).any (·.spares id) =
      (broker.calls[caller]?).any (·.spares id) := by
    have asked := congrArg (fun requests => (requests[caller]?).any (·.spares id)) same
    simpa [requests, Option.any_map, Function.comp_def, Call.spares] using asked
  simp only [answersBesides, spared, place_congr same]

theorem answersBesides_append (first later : List Event) :
    broker.answersBesides id (first ++ later) =
      broker.answersBesides id first ++ broker.answersBesides id later := by
  simp [answersBesides, answers]

end Answers

section Order

def keeps (broker : Broker World Task) (id : TransactionId) : Move → Bool
  | .call caller => (broker.calls[caller]?).any (·.spares id)
  | .dispatcher | .run _ => true

theorem participants_besides (broker : Broker World Task) (id : TransactionId)
    (wipe : World → World) :
    (broker.besides id wipe).participants =
      (broker.participants.filter (broker.keeps id)).map (·.renamed (broker.place id)) := by
  have calls : (broker.besides id wipe).calls = broker.calls.filter (·.spares id) := by
    rw [besides_frame]
  have kept := Kept.range_filter (Call.spares id) broker.calls
  simp only [participants, besides_settings, calls, kept]
  have all : (List.range broker.runs.length).filter (fun _ => true) =
      List.range broker.runs.length := List.filter_eq_self.mpr fun _ _ => rfl
  simp [List.filter_cons, List.filter_map, keeps, Move.renamed, Function.comp_def, place, all]

theorem findSome?_filter {Item Result : Type} (keeps : Item → Bool)
    (find : Item → Option Result) (items : List Item) :
    (items.filter keeps).findSome? find =
      items.findSome? fun item => if keeps item then find item else none := by
  induction items with
  | nil => rfl
  | cons item items ih => cases kept : keeps item <;> simp [List.findSome?_cons, kept, ih]

theorem findSome?_matched {Item First Second Seen : Type} (first : Item → Option First)
    (second : Item → Option Second) (see : First → Seen) (see' : Second → Seen)
    {hidden : Item → Prop} (items : List Item)
    (matched : ∀ item ∈ items, ¬ hidden item →
      (second item).map see' = (first item).map see)
    (silent : ∀ item ∈ items, hidden item → first item = none → second item = none) :
    (∃ item found, hidden item ∧ first item = some found ∧
      items.findSome? first = some found) ∨
      (items.findSome? second).map see' = (items.findSome? first).map see := by
  induction items with
  | nil => exact .inr rfl
  | cons item items ih =>
    have later := ih (fun item among => matched item (List.mem_cons_of_mem _ among))
      fun item among => silent item (List.mem_cons_of_mem _ among)
    simp only [List.findSome?_cons]
    by_cases covered : hidden item
    · cases found : first item with
      | some result => exact .inl ⟨item, result, covered, found, rfl⟩
      | none =>
        rw [silent item List.mem_cons_self covered found]
        exact later
    · have same := matched item List.mem_cons_self covered
      cases found : first item with
      | some result =>
        rw [found] at same
        cases found' : second item with
        | some result' => rw [found'] at same; exact .inr same
        | none => rw [found'] at same; cases same
      | none =>
        rw [found] at same
        cases found' : second item with
        | some result' => rw [found'] at same; cases same
        | none => exact later

theorem fire?_of_not_keeps {move : Move} (visible : ¬ broker.Hidden id move)
    (lost : broker.keeps id move = false) : broker.fire? service move = none := by
  cases move with
  | dispatcher | run => cases lost
  | call caller =>
    cases found : broker.calls[caller]? with
    | none => simp [fire?, advanceCall?, found]
    | some call => exact absurd ⟨call, found, by simpa [keeps, found] using lost⟩ visible

theorem advanceRun?_besides_self : (broker.besides id wipe).advanceRun? service id = none := by
  simp only [advanceRun?, run?_besides_self]
  cases broker.run? id <;> rfl

theorem next?_of_dispatcher {step : Step World Task}
    (fired : broker.fire? service .dispatcher = some step) : broker.next? service = some step := by
  simp only [next?, participants, List.cons_append, List.findSome?_cons, fired]

theorem next?_besides (separates : service.Separates id wipe) (steady : broker.Steady) :
    (∃ move step, broker.Hidden id move ∧ broker.fire? service move = some step ∧
      broker.next? service = some step) ∨
    ((broker.besides id wipe).next? service).map (bareSight id wipe) =
      (broker.next? service).map (broker.sight id wipe) := by
  cases first : broker.fire? service .dispatcher with
  | some step =>
    have next := next?_of_dispatcher first
    by_cases hidden : broker.Hidden id .dispatcher
    · exact .inl ⟨_, _, hidden, first, next⟩
    · right
      have same := dispatch?_besides separates steady hidden
      have fired : broker.dispatch? service = some step := first
      cases fired' : (broker.besides id wipe).dispatch? service with
      | none => rw [fired, fired'] at same; cases same
      | some step' =>
        have first' : (broker.besides id wipe).fire? service .dispatcher = some step' := fired'
        have next' := next?_of_dispatcher first'
        rw [fired, fired'] at same
        rw [next, next', same]
  | none =>
    -- Only now can a call be counted on to find room, so the rest of the search is compared item by
    -- item.
    have search : (broker.besides id wipe).next? service = broker.participants.findSome?
        fun move => if broker.keeps id move then
          (broker.besides id wipe).fire? service (move.renamed (broker.place id)) else none := by
      rw [next?, participants_besides, List.findSome?_map, findSome?_filter]
      rfl
    rw [search]
    refine findSome?_matched (broker.fire? service) _ _ _ broker.participants ?_ ?_
    · intro move _ visible
      rcases fire?_besides separates steady visible with ⟨_, crowded⟩ | same
      · exact absurd crowded (steady.uncrowded first)
      · cases kept : broker.keeps id move with
        | true => exact same
        | false => rw [fire?_of_not_keeps visible kept]; rfl
    · intro move _ hidden blocked
      cases move with
      | dispatcher =>
        obtain ⟨up, action, queue, head, _⟩ := hidden
        obtain ⟨due, running⟩ := steady.running up
        rw [queue_of_blocked running up blocked] at head
        cases head
      | run transaction =>
        cases hidden
        exact advanceRun?_besides_self
      | call caller =>
        obtain ⟨call, found, lost⟩ := hidden
        simp [keeps, found, lost]

/-- How a broker settles besides a transaction: what is left of the transaction after a move is
taken away at once. -/
inductive Leads (service : Service World Task) (id : TransactionId) (wipe : World → World) :
    Broker World Task → List (CallId × Outcome) → Broker World Task → Prop
  | settled {bare : Broker World Task} (blocked : bare.next? service = none) :
      Leads service id wipe bare [] bare
  | moved {bare middle last : Broker World Task} {given later : List (CallId × Outcome)}
      (next : (bare.next? service).map (bareSight id wipe) = some (middle, given))
      (leads : Leads service id wipe middle later last) :
      Leads service id wipe bare (given ++ later) last

theorem Leads.unique {bare last last' : Broker World Task} {given given' : List (CallId × Outcome)}
    (first : Leads service id wipe bare given last)
    (second : Leads service id wipe bare given' last') : last = last' ∧ given = given' := by
  induction first generalizing given' last' with
  | settled blocked =>
    cases second with
    | settled => exact ⟨rfl, rfl⟩
    | moved next => rw [blocked] at next; cases next
  | moved next _ ih =>
    cases second with
    | settled blocked => rw [blocked] at next; cases next
    | moved next' leads' =>
      cases next.symm.trans next'
      obtain ⟨rfl, rfl⟩ := ih leads'
      exact ⟨rfl, rfl⟩

theorem blocked_besides (separates : service.Separates id wipe) (steady : broker.Steady)
    (blocked : broker.next? service = none) : (broker.besides id wipe).next? service = none := by
  rcases next?_besides separates steady with ⟨_, _, _, _, next⟩ | same
  · rw [blocked] at next
    cases next
  · rw [blocked] at same
    exact Option.map_eq_none_iff.mp same

theorem leads_of_settleWithin (tires : service.Tires) (separates : service.Separates id wipe)
    (steady : broker.Steady) {moves : Nat} (enough : broker.effort service ≤ moves) :
    Leads service id wipe (broker.besides id wipe)
      (broker.answersBesides id (settleWithin service moves broker).2)
      ((settleWithin service moves broker).1.besides id wipe) := by
  induction moves generalizing broker with
  | zero =>
    have settled : broker.Settled service := settled_of_effort_le tires steady.paced enough
    exact .settled (blocked_besides separates steady (settled_iff.mp settled))
  | succ moves ih =>
    cases next : broker.next? service with
    | none =>
      simp only [settleWithin, next]
      exact .settled (blocked_besides separates steady next)
    | some step =>
      obtain ⟨after, events⟩ := step
      obtain ⟨move, fired⟩ := fired_of_next? next
      have less := effort_lt tires steady.paced fired
      have later := ih (steady.move fired) (Nat.le_of_lt_succ (Nat.lt_of_lt_of_le less enough))
      rw [answersBesides_congr (requests_of_fire? fired)] at later
      simp only [settleWithin, next, answersBesides_append]
      rcases next?_besides separates steady with ⟨move, _, hidden, fired, next'⟩ | same
      · cases next.symm.trans next'
        obtain ⟨unseen, silent⟩ := besides_of_hidden steady.formed separates hidden fired
        rw [silent, ← unseen]
        exact later
      · rw [next] at same
        exact .moved same later

/-- Brokers that look the same besides a transaction settle to brokers that do, with the same
answers to all calls that spare the transaction. -/
theorem settle_besides (tires : service.Tires) (separates : service.Separates id wipe)
    {other : Broker World Task} (steady : broker.Steady) (steady' : other.Steady)
    (same : other.besides id wipe = broker.besides id wipe) :
    (other.settle service).1.besides id wipe = (broker.settle service).1.besides id wipe ∧
      other.answersBesides id (other.settle service).2 =
        broker.answersBesides id (broker.settle service).2 := by
  have first := leads_of_settleWithin tires separates steady' (Nat.le_refl _)
  have second := leads_of_settleWithin tires separates steady (Nat.le_refl _)
  rw [same] at first
  exact first.unique second

end Order

end Broker

end InstanceBroker
