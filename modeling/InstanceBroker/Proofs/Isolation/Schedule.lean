import InstanceBroker.Proofs.Isolation.Settle

namespace InstanceBroker

variable {World Task : Type} {service : Service World Task}

namespace Broker

inductive Settles (service : Service World Task) :
    Broker World Task → List Event → Broker World Task → Prop
  | still {broker : Broker World Task} (settled : broker.Settled service) :
      Settles service broker [] broker
  | moved {broker middle last : Broker World Task} {move : Move} {events later : List Event}
      (fired : broker.fire? service move = some (middle, events))
      (settles : Settles service middle later last) : Settles service broker (events ++ later) last

variable {broker after last other : Broker World Task} {id : TransactionId} {wipe : World → World}
  {events : List Event}

theorem settles_of_settleWithin (tires : service.Tires) (paced : broker.Paced) {moves : Nat}
    (enough : broker.effort service ≤ moves) :
    Settles service broker (settleWithin service moves broker).2
      (settleWithin service moves broker).1 := by
  induction moves generalizing broker with
  | zero => exact .still (settled_of_effort_le tires paced enough)
  | succ moves ih =>
    simp only [settleWithin]
    split
    · rename_i blocked
      exact .still (settled_iff.mpr blocked)
    · rename_i after events next
      obtain ⟨move, fired⟩ := fired_of_next? next
      have less := effort_lt tires paced fired
      have taken : broker.turn? service (.move move) = some (after, events) := fired
      exact .moved fired
        (ih (paced_step paced taken) (Nat.le_of_lt_succ (Nat.lt_of_lt_of_le less enough)))

theorem settles_settle (tires : service.Tires) (paced : broker.Paced) :
    Settles service broker (broker.settle service).2 (broker.settle service).1 :=
  settles_of_settleWithin tires paced (Nat.le_refl _)

namespace Settles

theorem settled (settles : Settles service broker events last) : last.Settled service := by
  induction settles with
  | still settled => exact settled
  | moved _ _ ih => exact ih

theorem steady (settles : Settles service broker events last) (steady : broker.Steady) :
    last.Steady := by
  induction settles with
  | still => exact steady
  | moved fired _ ih => exact ih (steady.move fired)

theorem requests_eq (settles : Settles service broker events last) :
    last.requests = broker.requests := by
  induction settles with
  | still => rfl
  | moved fired _ ih => exact ih.trans (requests_of_fire? fired)

theorem of_settled (settles : Settles service broker events last)
    (settled : broker.Settled service) : events = [] ∧ last = broker := by
  cases settles with
  | still => exact ⟨rfl, rfl⟩
  | moved fired => rw [settled] at fired; cases fired

end Settles

theorem settled_besides (separates : service.Separates id wipe) (steady : broker.Steady)
    (settled : broker.Settled service) : (broker.besides id wipe).Settled service :=
  settled_iff.mpr (blocked_besides separates steady (settled_iff.mp settled))

theorem hidden_of_settled_besides (separates : service.Separates id wipe) (steady : broker.Steady)
    (settled : (broker.besides id wipe).Settled service) {move : Move} {step : Step World Task}
    (fired : broker.fire? service move = some step) : broker.Hidden id move := by
  refine Classical.byContradiction fun visible => ?_
  rcases fire?_besides separates steady visible with ⟨blocked, _⟩ | same
  · rw [blocked] at fired
    cases fired
  · rw [settled, fired] at same
    cases same

/-- What is left to do on behalf of the transaction can be done without anybody noticing. -/
theorem settles_hidden (tires : service.Tires) (separates : service.Separates id wipe)
    (steady : broker.Steady) (settled : (broker.besides id wipe).Settled service) :
    ∃ events last, Settles service broker events last ∧
      last.besides id wipe = broker.besides id wipe ∧ broker.answersBesides id events = [] := by
  -- All that still moves is hidden, and it cannot move for ever.
  induction left : broker.effort service using Nat.strongRecOn generalizing broker with
  | ind effort ih =>
    cases next : broker.next? service with
    | none => exact ⟨_, _, .still (settled_iff.mpr next), rfl, rfl⟩
    | some step =>
      obtain ⟨after, events⟩ := step
      obtain ⟨move, fired⟩ := fired_of_next? next
      have hidden := hidden_of_settled_besides separates steady settled fired
      obtain ⟨unseen, silent⟩ := besides_of_hidden steady.formed separates hidden fired
      have less := effort_lt tires steady.paced fired
      obtain ⟨later, last, settles, same, mute⟩ :=
        ih _ (left ▸ less) (steady.move fired) (by rw [unseen]; exact settled) rfl
      rw [answersBesides_congr (requests_of_fire? fired)] at mute
      refine ⟨_, last, .moved fired settles, same.trans unseen, ?_⟩
      rw [answersBesides_append, silent, mute]
      rfl

def Unburdened (broker : Broker World Task) (id : TransactionId) : Prop :=
  ∀ action ∈ broker.queue, action.spares id = true

theorem Unburdened.uncrowded (unburdened : broker.Unburdened id) : ¬ broker.Crowded id wipe := by
  intro crowded
  have whole : (broker.besides id wipe).hasRoom = broker.hasRoom := by
    rw [besides_frame]
    simp only [hasRoom, List.filter_eq_self.mpr unburdened, List.length_map]
  rw [crowded.room, crowded.full] at whole
  cases whole

theorem Unburdened.move (unburdened : broker.Unburdened id) {move : Move}
    (visible : ¬ broker.Hidden id move)
    (fired : broker.fire? service move = some (after, events)) : after.Unburdened id := by
  have taken : broker.turn? service (.move move) = some (after, events) := fired
  intro action queued
  cases queue_step taken with
  | kept same => exact unburdened action (same ▸ queued)
  | handled up head => exact unburdened action (head ▸ List.mem_cons_of_mem _ queued)
  | @queued caller call phase actions values _ asks progresses result =>
    rw [result, queue_moved] at queued
    rcases List.mem_append.mp queued with old | new
    · exact unburdened action old
    · have spares : call.spares id = true := by
        cases spares : call.spares id with
        | true => rfl
        | false => exact absurd ⟨call, asks, spares⟩ visible
      cases progresses with
      | released | cancelQueued =>
        cases List.mem_singleton.mp new
        exact spares
      | queued =>
        cases List.mem_singleton.mp new
        exact (Request.spares_action ..).trans spares
      | _ => cases new

theorem exists_move (same : other.besides id wipe = broker.besides id wipe)
    (unburdened : other.Unburdened id) {move : Move} (visible : ¬ broker.Hidden id move)
    {step : Step World Task} (fired : broker.fire? service move = some step) :
    ∃ move', ¬ other.Hidden id move' ∧
      move'.renamed (other.place id) = move.renamed (broker.place id) := by
  cases move with
  | dispatcher =>
    refine ⟨.dispatcher, fun hidden => ?_, rfl⟩
    obtain ⟨_, action, queue, head, lost⟩ := hidden
    rw [unburdened action (head ▸ List.mem_cons_self)] at lost
    cases lost
  | run transaction => exact ⟨.run transaction, visible, rfl⟩
  | call caller =>
    obtain ⟨after, events⟩ := step
    obtain ⟨call, _, _, _, asks, _⟩ := progresses_of_advanceCall? fired
    have spares : call.spares id = true := by
      cases spares : call.spares id with
      | true => rfl
      | false => exact absurd ⟨call, asks, spares⟩ visible
    have there := @calls_besides _ _ broker id wipe _ _ asks spares
    rw [← same, besides_frame] at there
    obtain ⟨caller', found, fair, place⟩ := Kept.exists_place there
    refine ⟨.call caller', ?_, congrArg Move.call place⟩
    rintro ⟨call', found', lost⟩
    cases found.symm.trans found'
    rw [fair] at lost
    cases lost

/-- However the one broker settles, the other one can settle with the same outcome besides the
transaction and with the same answers. -/
theorem Settles.besides (tires : service.Tires) (separates : service.Separates id wipe)
    (settles : Settles service broker events last) (steady : broker.Steady)
    (steady' : other.Steady) (unburdened : other.Unburdened id)
    (same : other.besides id wipe = broker.besides id wipe) :
    ∃ events' last', Settles service other events' last' ∧
      last'.besides id wipe = last.besides id wipe ∧
      other.answersBesides id events' = broker.answersBesides id events := by
  induction settles generalizing other with
  | still settled =>
    -- The other broker may have hidden moves left.
    have blocked := settled_besides separates steady settled
    rw [← same] at blocked
    obtain ⟨events', last', settles', same', silent⟩ :=
      settles_hidden tires separates steady' blocked
    exact ⟨events', last', settles', same'.trans same, silent⟩
  | @moved broker middle last move events later fired settles ih =>
    have onward := steady.move fired
    by_cases hidden : broker.Hidden id move
    · -- The other broker has nothing to do for a hidden move.
      obtain ⟨unseen, silent⟩ := besides_of_hidden steady.formed separates hidden fired
      obtain ⟨events', last', settles', same', answered⟩ :=
        ih onward steady' unburdened (same.trans unseen.symm)
      rw [answersBesides_congr (requests_of_fire? fired)] at answered
      exact ⟨events', last', settles', same',
        by rw [answersBesides_append, silent, answered]; rfl⟩
    · -- The other broker makes the same move.
      obtain ⟨move', visible', renamed⟩ := exists_move same unburdened hidden fired
      rcases fire?_besides separates steady hidden with ⟨blocked, _⟩ | seen
      · rw [blocked] at fired
        cases fired
      · rcases fire?_besides separates steady' visible' with ⟨_, crowded⟩ | seen'
        · exact absurd crowded unburdened.uncrowded
        · rw [same, renamed, seen, fired] at seen'
          cases fired' : other.fire? service move' with
          | none => rw [fired'] at seen'; cases seen'
          | some step =>
            obtain ⟨middle', first⟩ := step
            rw [fired'] at seen'
            obtain ⟨same', given⟩ := Prod.mk.inj (Option.some.inj seen')
            obtain ⟨events', last', settles', last_eq, answered⟩ :=
              ih onward (steady'.move fired') (unburdened.move visible' fired') same'.symm
            rw [answersBesides_congr (requests_of_fire? fired),
              answersBesides_congr (requests_of_fire? fired')] at answered
            refine ⟨_, last', .moved fired' settles', last_eq, ?_⟩
            rw [answersBesides_append, answersBesides_append, answered]
            exact congrArg (· ++ _) given.symm

theorem queue_of_down {move : Move} (down : broker.shutdown = true)
    (fired : broker.fire? service move = some (after, events)) : after.queue = broker.queue := by
  have taken : broker.turn? service (.move move) = some (after, events) := fired
  cases queue_step taken with
  | kept same => exact same
  | handled up =>
    rw [down] at up
    cases up
  | queued _ progresses result =>
    rw [result, queue_moved, progresses.unqueued (.inl down), List.append_nil]

theorem Settles.shutdown_eq (settles : Settles service broker events last) :
    last.shutdown = broker.shutdown := by
  induction settles with
  | still => rfl
  | moved fired _ ih => exact ih.trans (settings_of_fire? fired).1

theorem Settles.queue_of_down (settles : Settles service broker events last)
    (down : broker.shutdown = true) : last.queue = broker.queue := by
  induction settles with
  | still => rfl
  | moved fired _ ih =>
    have stays := (settings_of_fire? fired).1
    exact (ih (stays.trans down)).trans (Broker.queue_of_down down fired)

theorem Settles.idle (settles : Settles service broker events last) (steady : broker.Steady)
    (idle : broker.queue = []) : last.queue = [] := by
  cases shutdown : broker.shutdown with
  | true => exact (settles.queue_of_down shutdown).trans idle
  | false =>
    have up := settles.shutdown_eq.trans shutdown
    obtain ⟨due, running⟩ := (settles.steady steady).running up
    exact queue_of_blocked running up (settles.settled .dispatcher)

end Broker

end InstanceBroker
