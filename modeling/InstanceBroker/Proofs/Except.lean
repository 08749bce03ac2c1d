namespace InstanceBroker

variable {α β ε : Type}

theorem ok_bind (value : α) (next : α → Except ε β) :
    (Except.ok value >>= next) = next value := rfl

theorem ok_of_bind {first : Except ε α} {next : α → Except ε β} {value : β}
    (made : first.bind next = .ok value) :
    ∃ between, first = .ok between ∧ next between = .ok value := by
  cases first with
  | error => cases made
  | ok between => exact ⟨between, rfl, made⟩

theorem ok_of_map {change : α → β} {made : Except ε α} {value : β}
    (changed : change <$> made = .ok value) :
    ∃ before, made = .ok before ∧ change before = value := by
  cases made with
  | error => cases changed
  | ok before => cases changed; exact ⟨before, rfl, rfl⟩

theorem map_eq_ok_iff {value : Except ε α} {other : Option β}
    (same : value.toOption.isSome = other.isSome) :
    (value.map fun _ => ()) = .ok () ↔ other.isSome = true := by
  cases value with
  | ok => exact iff_of_true rfl same.symm
  | error => exact iff_of_false nofun (by rw [← same]; nofun)

theorem bind_eq_ok_iff {first next : Except ε Unit} :
    (first.bind fun _ => next) = .ok () ↔ first = .ok () ∧ next = .ok () := by
  cases first with
  | ok => exact ⟨fun made => ⟨rfl, made⟩, fun both => both.2⟩
  | error => exact iff_of_false nofun fun both => nomatch both.1

end InstanceBroker
