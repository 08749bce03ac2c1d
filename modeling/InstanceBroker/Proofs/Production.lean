import InstanceBroker.Proofs.WellFormed

namespace InstanceBroker

variable {World Task : Type} {service : Service World Task}

def Run.held (run : Run Task) : List ResultValue :=
  match run.phase with
  | .reporting value _ | .delivering value => [value]
  | .working _ | .ended => []

namespace Broker

/-- The value that the operation hands over if it moves now. -/
def product? (service : Service World Task) (broker : Broker World Task) (id : TransactionId) :
    Option ResultValue := do
  let run ← broker.run? id
  match run.phase with
  | .working task => match service.step (broker.context id) run.operation broker.world task with
    | .report progress _ _ => some (.ofProgress progress)
    | .finish _ outcome => some (.ofOutcome run.operation.kind outcome)
    | .wait | .proceed _ _ => none
  | _ => none

def isOpen (broker : Broker World Task) (id : TransactionId) : Bool :=
  !broker.isCancelled id && broker.isWanted id

variable {broker : Broker World Task} {id : TransactionId} {run next : Run Task} {world : World}
  {events : List Event}

/-- A run writes what it held or holds what it produced; a value gets lost only when it cannot be
written. -/
theorem Advances.balance (advances : Advances service broker id run world next events)
    (found : broker.run? id = some run) :
    (events.filterMap (·.written? id) ++ next.held).Sublist
        (run.held ++ (broker.product? service id).toList) ∧
      (broker.isOpen id = true →
        events.filterMap (·.written? id) ++ next.held =
          run.held ++ (broker.product? service id).toList) := by
  have gone (unwanted : broker.isCancelled id = true ∨ broker.isWanted id = false)
      (isOpen : broker.isOpen id = true) : False := by
    simp only [Broker.isOpen, Bool.and_eq_true, Bool.not_eq_true'] at isOpen
    rcases unwanted with cancelled | unwanted
    · rw [isOpen.1] at cancelled; cases cancelled
    · rw [isOpen.2] at unwanted; cases unwanted
  cases advances with
  | proceeded working demand | reported working demand | finished working demand =>
    simp [product?, found, working, demand, Run.held]
  | dropped working demand cancelled =>
    refine ⟨?_, fun isOpen => (gone (.inl cancelled) isOpen).elim⟩
    simp [Run.held, Event.written?]
  | accepted holds | delivered holds =>
    simp [product?, found, holds, Run.held, Event.written?]
  | refused holds unwanted | undelivered holds unwanted =>
    refine ⟨?_, fun isOpen => (gone unwanted isOpen).elim⟩
    simp [Run.held, Event.written?]

end Broker

def Moment.product? (service : Service World Task) (id : TransactionId)
    (moment : Moment World Task) : Option ResultValue :=
  match moment.turn with
  | .move (.run other) => if other = id then moment.broker.product? service id else none
  | _ => none

def products (service : Service World Task) (id : TransactionId)
    (moments : List (Moment World Task)) : List ResultValue :=
  moments.filterMap (·.product? service id)

@[simp] theorem products_append (id : TransactionId) (first later : List (Moment World Task)) :
    products service id (first ++ later) =
      products service id first ++ products service id later := by simp [products]

@[simp] theorem products_singleton (id : TransactionId) (moment : Moment World Task) :
    products service id [moment] = (moment.product? service id).toList := by
  cases produced : moment.product? service id <;> simp [products, produced]

theorem Moment.product?_other {id : TransactionId} {moment : Moment World Task}
    (other : moment.turn ≠ .move (.run id)) : moment.product? service id = none := by
  unfold Moment.product?
  split
  · rename_i run same
    refine if_neg ?_
    rintro rfl
    exact other same
  · rfl

theorem Moment.product?_missing {id : TransactionId} {moment : Moment World Task}
    (missing : moment.broker.run? id = none) : moment.product? service id = none := by
  unfold Moment.product?
  split
  · split
    · simp [Broker.product?, missing]
    · rfl
  · rfl

def writtenTo (id : TransactionId) (events : List Event) : List ResultValue :=
  events.filterMap (·.written? id)

@[simp] theorem writtenTo_append (id : TransactionId) (first later : List Event) :
    writtenTo id (first ++ later) = writtenTo id first ++ writtenTo id later := by simp [writtenTo]

namespace Broker

def buffered (broker : Broker World Task) (id : TransactionId) : List ResultValue :=
  (broker.run? id).elim [] (·.buffer)

def held (broker : Broker World Task) (id : TransactionId) : List ResultValue :=
  (broker.run? id).elim [] (·.held)

theorem held_opened (broker : Broker World Task) (operation : Operation) :
    (broker.opened service operation).held = [] := by
  unfold opened
  split <;> rfl

variable {broker after : Broker World Task} {turn : Turn World} {events : List Event}
  {id : TransactionId}

/-- A turn moves what is produced to where it is held or written, and loses it only while the
transaction is cancelled or unwanted. -/
theorem production_step (formed : broker.WellFormed)
    (taken : broker.turn? service turn = some (after, events)) (id : TransactionId) :
    let product := (Moment.mk broker turn events).product? service id
    (writtenTo id events ++ after.held id).Sublist (broker.held id ++ product.toList) ∧
      (broker.isOpen id = true →
        writtenTo id events ++ after.held id = broker.held id ++ product.toList) := by
  dsimp only
  cases found : broker.run? id with
  | none =>
    obtain ⟨_, unwritten, begun⟩ := run_begun taken formed.numbered found
    have unheld : broker.held id = [] := by simp [held, found]
    have still : after.held id = [] := by
      cases begun with
      | missing missing => simp [held, missing]
      | opened _ _ begun => simp [held, begun, held_opened]
      | orphaned _ _ begun =>
        rw [held, begun]
        exact held_opened broker _
    rw [Moment.product?_missing found, unheld, still, writtenTo, unwritten]
    exact ⟨.refl _, fun _ => rfl⟩
  | some run =>
    obtain ⟨next, there, step⟩ := run_step taken found
    have before : broker.held id = run.held := by simp [held, found]
    have later : after.held id = next.held := by simp [held, there]
    have still (unwritten : writtenTo id events = []) (same : next.held = run.held)
        (other : turn ≠ .move (.run id)) :
        (writtenTo id events ++ next.held).Sublist
          (run.held ++ ((Moment.mk broker turn events).product? service id).toList) ∧
        (broker.isOpen id = true → writtenTo id events ++ next.held =
          run.held ++ ((Moment.mk broker turn events).product? service id).toList) := by
      rw [unwritten, same, Moment.product?_other other]
      simp
    rw [before, later]
    cases step with
    | kept other _ unwritten => exact still unwritten rfl other
    | read _ _ _ _ _ unwritten => exact still unwritten rfl (by simp)
    | signalled _ _ unwritten => exact still unwritten rfl (by simp)
    | advanced advances => simpa [Moment.product?, writtenTo] using advances.balance found

end Broker

def Run.isClosing (run : Run Task) : Bool :=
  match run.phase with
  | .delivering _ | .ended => true
  | .working _ | .reporting _ _ => false

theorem Run.phase_of_hasEnded {run : Run Task} (ended : run.hasEnded = true) :
    run.phase = .ended := by
  unfold Run.hasEnded at ended
  split at ended
  · assumption
  · cases ended

theorem isTerminal_ofOutcome (kind : Operation.Kind)
    (outcome : Except OperationError kind.Returned) :
    (ResultValue.ofOutcome kind outcome).isTerminal = true := by
  cases outcome <;> rfl

/-- All that a run produced was written or is still in its hands, and its outcome is among that
exactly when the run is closing. -/
structure Kept (run : Run Task) (written produced : List ResultValue) : Prop where
  balance : written ++ run.held = produced
  closing : (∃ value ∈ produced, value.isTerminal = true) ↔ run.isClosing = true

namespace Broker

variable {broker after : Broker World Task} {turn : Turn World} {events : List Event}
  {id : TransactionId} {run next : Run Task} {world : World}

theorem Advances.ongoing (advances : Advances service broker id run world next events) :
    run.hasEnded = false := by
  cases advances with
  | proceeded phase | reported phase | dropped phase | finished phase | accepted phase
  | refused phase | delivered phase | undelivered phase => simp [Run.hasEnded, phase]

theorem Advances.closing (advances : Advances service broker id run world next events)
    (found : broker.run? id = some run) (isOpen : broker.isOpen id = true) :
    next.isClosing = true ↔ run.isClosing = true ∨
      ∃ value ∈ (broker.product? service id).toList, value.isTerminal = true := by
  cases advances with
  | proceeded working demand | reported working demand =>
    simp [Run.isClosing, product?, found, working, demand, ResultValue.ofProgress,
      ResultValue.isTerminal]
  | finished working demand =>
    simp [Run.isClosing, product?, found, working, demand, isTerminal_ofOutcome]
  | dropped working demand cancelled =>
    simp [Broker.isOpen, cancelled] at isOpen
  | accepted phase | refused phase | delivered phase | undelivered phase =>
    simp [Run.isClosing, product?, found, phase]

theorem kept_step {written produced : List ResultValue} (kept : Kept run written produced)
    (found : broker.run? id = some run) (step : RunStep service broker id run turn events next)
    (fit : run.hasEnded = false → broker.isOpen id = true) :
    Kept next (written ++ writtenTo id events)
      (produced ++ ((Moment.mk broker turn events).product? service id).toList) := by
  have still (unwritten : writtenTo id events = []) (other : turn ≠ .move (.run id)) :
      Kept run (written ++ writtenTo id events)
        (produced ++ ((Moment.mk broker turn events).product? service id).toList) := by
    rw [unwritten, Moment.product?_other other, Option.toList_none, List.append_nil,
      List.append_nil]
    exact kept
  cases step with
  | kept other _ unwritten => exact still unwritten other
  | read _ _ _ _ _ unwritten =>
    obtain ⟨balance, closing⟩ := still unwritten (by simp)
    exact ⟨balance, closing⟩
  | signalled _ _ unwritten =>
    obtain ⟨balance, closing⟩ := still unwritten (by simp)
    exact ⟨balance, closing⟩
  | advanced advances =>
    have isOpen := fit advances.ongoing
    have produced_eq : (Moment.mk broker (.move (.run id)) events).product? service id =
        broker.product? service id := if_pos rfl
    rw [produced_eq]
    constructor
    case balance =>
      rw [List.append_assoc, writtenTo, (advances.balance found).2 isOpen, ← List.append_assoc,
        kept.balance]
    case closing =>
      rw [advances.closing found isOpen, ← kept.closing]
      simp only [List.mem_append, or_and_right, exists_or]

end Broker

end InstanceBroker
