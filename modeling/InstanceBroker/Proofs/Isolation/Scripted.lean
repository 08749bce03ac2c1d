import InstanceBroker.Proofs.Isolation.Session

namespace InstanceBroker

namespace Scripted

def World.without (id : TransactionId) (world : World) : World :=
  { world with notes := world.notes.filter (·.1 ≠ id) }

namespace World

theorem without_without (id : TransactionId) (world : World) :
    (world.without id).without id = world.without id := by
  simp [without, List.filter_filter]

theorem note_without_self (id : TransactionId) (world : World) (note : Note) :
    (world.note id note).without id = world.without id := by
  simp [without, World.note]

theorem note_without {id other : TransactionId} (apart : other ≠ id) (world : World)
    (note : Note) :
    (world.without id).note other note = (world.note other note).without id := by
  simp [without, World.note, apart]

theorem notes_without {id other : TransactionId} (apart : other ≠ id) (world : World) :
    (world.without id).notes.filter (·.1 = other) = world.notes.filter (·.1 = other) := by
  rw [without, List.filter_filter]
  refine List.filter_congr fun entry _ => ?_
  by_cases theirs : entry.1 = other
  · simp [theirs, apart]
  · simp [theirs]

end World

variable {id : TransactionId} {world : World}

theorem Act.verdict?_without (context : Context) (act : Act) :
    act.verdict? context (world.without id) = act.verdict? context world := by
  cases act <;> rfl

namespace Scripts

variable {script : Script} {context : Context}

section Others

theorem settleAct_without (apart : context.id ≠ id) (kind : Operation.Kind) (rest : List Act)
    (verdict : Except OperationError Unit) :
    settleAct script context kind (world.without id) rest verdict =
      (settleAct script context kind world rest verdict).mapWorld (·.without id) := by
  cases verdict with
  | ok =>
    simp only [settleAct, World.note_without apart]
    rfl
  | error e =>
    simp only [settleAct, World.note_without apart]
    split <;> rfl

theorem play_without (apart : context.id ≠ id) (operation : Operation) (phase : Phase) :
    play script context operation (world.without id) phase =
      (play script context operation world phase).mapWorld (·.without id) := by
  cases phase with
  | entering =>
    simp only [play, World.note_without apart]
    rfl
  | playing acts =>
    cases acts with
    | nil =>
      simp only [play, World.note_without apart]
      rfl
    | cons act rest =>
      simp only [play, Act.verdict?_without]
      split
      · rfl
      · cases act.verdict? context world with
        | none => rfl
        | some verdict => exact settleAct_without apart ..
  | reported acts accepted => exact settleAct_without apart ..

end Others

def Noted (context : Context) (world : World) {kind : Operation.Kind} :
    Demand World Phase kind → Prop
  | .wait | .report .. => True
  | .proceed after _ | .finish after _ => ∃ note, after = world.note context.id note

theorem noted_settleAct (kind : Operation.Kind) (rest : List Act)
    (verdict : Except OperationError Unit) :
    Noted context world (settleAct script context kind world rest verdict) := by
  cases verdict with
  | ok => exact ⟨_, rfl⟩
  | error e =>
    simp only [settleAct]
    split <;> exact ⟨_, rfl⟩

theorem noted_play (operation : Operation) (phase : Phase) :
    Noted context world (play script context operation world phase) := by
  cases phase with
  | entering => exact ⟨_, rfl⟩
  | playing acts =>
    cases acts with
    | nil => exact ⟨_, rfl⟩
    | cons act rest =>
      simp only [play]
      split
      · exact trivial
      · cases act.verdict? context world with
        | none => exact trivial
        | some verdict => exact noted_settleAct ..
  | reported acts accepted => exact noted_settleAct ..

theorem noted_step (scripts : Scripts) (context : Context) (operation : Operation) (world : World)
    (phase : Phase) : Noted context world (scripts.step context operation world phase) := by
  simp only [step]
  cases scripts.lookup context.id with
  | none => exact ⟨_, rfl⟩
  | some script => exact noted_play ..

section Leaves

variable {scripts : Scripts} {operation : Operation} {phase : Phase} {after : World}

theorem note_of_proceed {next : Phase}
    (proceeds : scripts.service.step context operation world phase = .proceed after next) :
    ∃ note, after = world.note context.id note := by
  have noted := scripts.noted_step context operation world phase
  have steps : scripts.step context operation world phase = .proceed after next := proceeds
  rwa [steps] at noted

theorem note_of_finish {outcome : Except OperationError operation.kind.Returned}
    (finishes : scripts.service.step context operation world phase = .finish after outcome) :
    ∃ note, after = world.note context.id note := by
  have noted := scripts.noted_step context operation world phase
  have steps : scripts.step context operation world phase = .finish after outcome := finishes
  rwa [steps] at noted

end Leaves

theorem step_without (scripts : Scripts) (apart : context.id ≠ id) (operation : Operation)
    (phase : Phase) :
    scripts.step context operation (world.without id) phase =
      (scripts.step context operation world phase).mapWorld (·.without id) := by
  simp only [step]
  cases scripts.lookup context.id with
  | none =>
    simp only [World.note_without apart]
    rfl
  | some script => exact play_without apart ..

/-- Scripts keep every transaction apart from the others. -/
theorem separates (scripts : Scripts) (id : TransactionId) :
    scripts.service.Separates id (World.without id) where
  again := World.without_without id
  others _ operation _ phase apart := scripts.step_without apart operation phase
  proceeds _ _ world _ _ _ own proceeds := by
    obtain ⟨note, rfl⟩ := note_of_proceed proceeds
    rw [own, World.note_without_self]
  finishes _ _ world _ _ _ own finishes := by
    obtain ⟨note, rfl⟩ := note_of_finish finishes
    rw [own, World.note_without_self]

end Scripts

end Scripted

theorem Session.separates_scripted (scripts : Scripted.Scripts) (id : TransactionId) :
    (Session.scripted scripts).Separates id (Scripted.World.without id) where
  service := scripts.separates id
  release gate world := Scripted.World.without_without id (world.release gate)
  notes world _ apart := Scripted.World.notes_without apart world
  released _ _ := List.prefix_refl _
  proceeded _ _ _ _ _ _ proceeds := by
    obtain ⟨note, rfl⟩ := Scripted.Scripts.note_of_proceed proceeds
    exact List.prefix_append ..
  finished _ _ _ _ _ _ finishes := by
    obtain ⟨note, rfl⟩ := Scripted.Scripts.note_of_finish finishes
    exact List.prefix_append ..

end InstanceBroker
