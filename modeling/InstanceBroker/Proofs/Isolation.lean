import InstanceBroker.Proofs.Isolation.Report
import InstanceBroker.Proofs.Isolation.Scripted

namespace InstanceBroker

open Broker (Settles SettlesInOrder Settling)

namespace Session

variable {World Task : Type} {backend : Backend World Task} {id : TransactionId}

/-- Two sessions that are the same for all but one transaction: the requests that neither read it,
cancel it nor list it are answered alike and in the same steps, the service notes the same for the
others, and these are live at the end or not, in the same states. -/
structure SameBesides (id : TransactionId) (steps : List Step) (reports reports' : List Report)
    (last last' : State World Task) : Prop where
  reports : ReportsAlike id steps 0 reports reports'
  live : ∀ other, other ≠ id →
    last'.broker.table.find? other = last.broker.table.find? other

/-- What it means for a session that the requests which do not spare a transaction are withdrawn
from it. Each of them is replaced by a step that does nothing, so that the others keep their
numbers. -/
structure Isolation (backend : Backend World Task) (start : State World Task) (id : TransactionId)
    (steps : List Step) : Prop where
  /-- The participants move in their fixed order. -/
  ordered : SameBesides id steps (start.play backend 0 steps)
    (start.play backend 0 (steps.map (·.without id))) (start.arrive backend 0 steps)
    (start.arrive backend 0 (steps.map (·.without id)))
  included : start.Unfolds backend (Settles backend.service) 0 steps (start.play backend 0 steps)
    (start.arrive backend 0 steps)
  /-- They move in any order: whatever can be seen in the session can be seen without them. -/
  withdrawn : ∀ reports last,
    start.Unfolds backend (Settles backend.service) 0 steps reports last →
    ∃ reports' last', start.Unfolds backend (Settles backend.service) 0
      (steps.map (·.without id)) reports' last' ∧
        SameBesides id steps reports reports' last last'
  restored : ∀ reports' last', start.Unfolds backend (Settles backend.service) 0
      (steps.map (·.without id)) reports' last' →
    ∃ reports last, start.Unfolds backend (Settles backend.service) 0 steps reports last ∧
      SameBesides id steps reports reports' last last'
  idle : ∀ before step later, steps = before ++ step :: later → step.spares id = false →
    (start.arrive backend 0 (before.map (·.without id))).step backend before.length
        (step.without id) =
      (start.arrive backend 0 (before.map (·.without id)), { result := .nothing })

def opening (backend : Backend World Task) (config : Config) (origin : Timestamp) (world : World)
    (thrownAway : List TransactionId) : State World Task :=
  .begin backend (.fresh config origin world thrownAway) false

theorem play_eq {config : Config} (valid : config.validate = .ok config) (origin : Timestamp)
    (world : World) (thrownAway : List TransactionId) (steps : List Step) :
    play backend config origin world false thrownAway steps =
      .ok ((opening backend config origin world thrownAway).play backend 0 steps) := by
  simp only [play, valid]
  rfl

section Opening

variable {config : Config} {origin : Timestamp} {world : World} {thrownAway : List TransactionId}

theorem settled_startDispatcher (service : Service World Task)
    (untimed : config.transactionTtl = none) :
    ((Broker.fresh config origin world thrownAway : Broker World Task).startDispatcher).Settled
      service := by
  intro move
  cases move with
  | dispatcher =>
    simp [Broker.fire?, Broker.dispatch?, Broker.fresh, Broker.create, Broker.startDispatcher,
      Broker.hasSenders, untimed]
  | run transaction => cases transaction <;> rfl
  | call caller => rfl

theorem follows_opening (valid : config.validate = .ok config)
    (untimed : config.transactionTtl = none) (silent : backend.notes world = [])
    (steps : List Step) :
    (opening backend config origin world thrownAway).Follows backend steps 0 := by
  have settled :=
    @settled_startDispatcher _ _ config origin world thrownAway backend.service untimed
  have begun : opening backend config origin world thrownAway =
      { broker := (Broker.fresh config origin world thrownAway).startDispatcher
        manual := false } := by
    have still := Broker.settleWithin_of_settled settled
    simp only [opening, State.begin, Bool.false_eq_true, if_false, Broker.settle, still]
  rw [begun]
  have formed := (Broker.WellFormed.fresh config origin world thrownAway : Broker.WellFormed
    (Broker.fresh config origin world thrownAway : Broker World Task))
  have started : (Broker.fresh config origin world thrownAway).turn? backend.service
      (.input .startDispatcher) =
        some ((Broker.fresh config origin world thrownAway).startDispatcher, []) := rfl
  refine ⟨rfl, ⟨formed.step started, rfl, untimed, ?_, fun _ => ⟨_, rfl⟩⟩, settled,
    rfl, rfl, ?_, ?_, ?_⟩
  · exact (Config.usable_of_validate valid).1
  · nofun
  · exact .nil
  · exact (congrArg List.length silent).symm

end Opening

section Withdrawing

variable {start last last' : State World Task} {steps : List Step} {wipe : World → World}
  {settling : Settling World Task}

theorem open_of_withdrawn (open_ : .dropApi ∉ steps) :
    .dropApi ∉ steps.map (·.without id) := by
  intro closing
  obtain ⟨step, among, withdrawn⟩ := List.mem_map.mp closing
  cases spares : step.spares id with
  | true =>
    rw [Step.without_of_spares spares] at withdrawn
    exact open_ (withdrawn ▸ among)
  | false =>
    rw [Step.without_of_not_spares spares] at withdrawn
    cases withdrawn

theorem live_of_besides
    (seen : last'.broker.besides id wipe = last.broker.besides id wipe) (other : TransactionId)
    (apart : other ≠ id) : last'.broker.table.find? other = last.broker.table.find? other := by
  rw [← Broker.find?_besides apart, seen, Broker.find?_besides apart]

theorem abreast_withdrawn (follows : ∀ steps, start.Follows backend steps 0)
    (open_ : .dropApi ∉ steps) :
    Abreast backend id wipe steps (steps.map (·.without id)) 0 start start where
  alike := ⟨rfl, rfl⟩
  follows := follows _
  follows' := follows _
  same := by
    rw [List.map_map]
    exact List.map_congr_left fun step _ => step.without_without
  open_ := open_

theorem isolation_of_separates
    (tires : backend.service.Tires) (separates : backend.Separates id wipe)
    (follows : ∀ steps, start.Follows backend steps 0) (open_ : .dropApi ∉ steps) :
    Isolation backend start id steps := by
  have abreast := @abreast_withdrawn _ _ backend id start steps wipe follows open_
  have anyOrder := Broker.oblivious_settles tires separates.service
  have inOrder := Broker.oblivious_settlesInOrder tires separates.service
  refine ⟨?ordered, ?included, ?withdrawn, ?restored, ?idle⟩
  case ordered =>
    obtain ⟨reports', last', unfolds', alike, seen⟩ :=
      abreast.unfolds inOrder separates rfl (start.unfolds_play backend 0 steps)
    obtain ⟨rfl, rfl⟩ := unfolds'.eq_play
    exact ⟨alike, live_of_besides seen⟩
  case included =>
    exact (start.unfolds_play backend 0 steps).anyOrder inOrder separates open_ (follows steps) rfl
  case withdrawn =>
    intro reports last unfolds
    obtain ⟨reports', last', unfolds', alike, seen⟩ :=
      abreast.unfolds anyOrder separates rfl unfolds
    exact ⟨reports', last', unfolds', alike, live_of_besides seen⟩
  case restored =>
    intro reports' last' unfolds'
    obtain ⟨reports, last, unfolds, alike, seen⟩ :=
      abreast.symm.unfolds anyOrder separates rfl unfolds'
    exact ⟨reports, last, unfolds, alike.symm abreast.asks_eq, live_of_besides seen.symm⟩
  case idle =>
    rintro before step later rfl lost
    have open' : .dropApi ∉ before.map (·.without id) := open_of_withdrawn fun closing =>
      open_ (List.mem_append_left _ closing)
    have unfolds := start.unfolds_play backend 0 (before.map (·.without id))
    have arrives := unfolds.follows inOrder separates open' (follows _) rfl
    rw [Step.without_of_not_spares lost]
    exact arrives.step_idle before.length

end Withdrawing

/-- No transaction can tell whether another one is read, cancelled or listed. -/
theorem isolation_of_session (scripts : Scripted.Scripts) {config : Config}
    (valid : config.validate = .ok config) (untimed : config.transactionTtl = none)
    (origin : Timestamp) (gates : List String) (thrownAway : List TransactionId)
    (id : TransactionId) {steps : List Step} (open_ : .dropApi ∉ steps) :
    Isolation (scripted scripts)
      (opening (scripted scripts) config origin { openGates := gates } thrownAway) id steps :=
  isolation_of_separates scripts.tires (separates_scripted scripts id)
    (follows_opening valid untimed rfl) open_

def rivals : Backend Scripted.World Scripted.Phase :=
  scripted [(1, { acts := [.gateOrCancel "ready"] }), (2, { acts := [.gate "ready"] })]

/-- Two transactions are opened and read, the first one is cancelled and all are listed before the
gate is opened. -/
def rivalry : List Step :=
  [.request (.initiate .listInstances), .request (.initiate .listInstances),
    .request (.collect .listInstances 1), .request (.collect .listInstances 2),
    .request (.cancel 1), .request .listTransactions, .release "ready"]

theorem isolation_rivalry : ∃ start : State Scripted.World Scripted.Phase,
    start = opening rivals {} ⟨0, 0⟩ {} [] ∧
    play rivals {} ⟨0, 0⟩ {} false [] rivalry = .ok (start.play rivals 0 rivalry) ∧
    Config.validate {} = .ok {} ∧ ({} : Config).transactionTtl = none ∧ .dropApi ∉ rivalry ∧
    (start.arrive rivals 0 rivalry).broker.world.notes =
      [(1, .called .listInstances), (2, .called .listInstances), (1, .failed .cancelled),
        (2, .succeeded), (2, .ended false)] ∧
    (start.arrive rivals 0 (rivalry.map (·.without 1))).broker.world.notes =
      [(1, .called .listInstances), (2, .called .listInstances), (1, .succeeded), (1, .ended false),
        (2, .succeeded), (2, .ended false)] ∧
    Isolation rivals start 1 rivalry := by
  have valid : Config.validate {} = .ok {} := rfl
  have open_ : .dropApi ∉ rivalry := by decide
  exact ⟨_, rfl, play_eq valid .., valid, rfl, open_, by decide +kernel, by decide +kernel,
    isolation_of_session _ valid rfl ⟨0, 0⟩ [] [] 1 open_⟩

end Session

end InstanceBroker
