import InstanceBroker.Proofs.Yaml.Lines
import InstanceBroker.Yaml.Document

namespace InstanceBroker.Yaml

def Head.plain (text : String) : Head := .scalar text .plain none

namespace Line

def events (line : Line) (number : Nat) : List Located :=
  [(.node (.plain (String.ofList line.key)) none, ⟨number, 0⟩),
    (.node (.plain (String.ofList line.value)) none, ⟨number, line.key.length + 2⟩)]

def pieces (line : Line) (number : Nat) : List (Piece × Place) :=
  [(.node (.plain (String.ofList line.key)), ⟨number, 0⟩),
    (.node (.plain (String.ofList line.value)), ⟨number, line.key.length + 2⟩)]

end Line

def lineEvents : Nat → List Line → List Located
  | number, [] => [(.closeMap, ⟨number, 0⟩)]
  | number, line :: lines => line.events number ++ lineEvents (number + 1) lines

def linePieces : Nat → List Line → List (Piece × Place)
  | number, [] => [(.close, ⟨number, 0⟩)]
  | number, line :: lines => line.pieces number ++ linePieces (number + 1) lines

namespace EventStream

theorem run_line (handles : Handles) (fuel : Nat) (opened : Place) (events : List Located)
    (line : Line) (number : Nat) (rest : List Token) :
    run handles (fuel + 4) [.key opened] events (line.tokens number ++ rest) =
      run handles fuel [.key opened] ((line.events number).reverse ++ events) rest := rfl

theorem run_nil (handles : Handles) (fuel : Nat) (events : List Located) (tokens : List Token) :
    run handles fuel [] events tokens = ⟨events.reverse, .ok tokens⟩ := by
  cases fuel <;> rfl

theorem run_lines (handles : Handles) (opened : Place) (events : List Located) (number : Nat)
    (lines : List Line) {fuel : Nat} (enough : 4 * lines.length < fuel) :
    ∃ last : Token, last.kind = .finish ∧
      run handles fuel [.key opened] events (lineTokens number lines) =
        ⟨events.reverse ++ lineEvents number lines, .ok [last]⟩ := by
  induction lines generalizing events number fuel with
  | nil =>
    obtain ⟨fuel, rfl⟩ := Nat.exists_eq_succ_of_ne_zero (Nat.ne_zero_of_lt enough)
    refine ⟨⟨.finish, ⟨number, 0⟩, ⟨number, 0⟩⟩, rfl, ?_⟩
    refine (run_nil handles fuel ((.closeMap, ⟨number, 0⟩) :: events) _).trans ?_
    rw [List.reverse_cons]
    rfl
  | cons line lines ih =>
    rw [List.length_cons] at enough
    obtain ⟨fuel, rfl⟩ : ∃ left, fuel = left + 4 := ⟨fuel - 4, by omega⟩
    obtain ⟨last, finish, same⟩ := ih ((line.events number).reverse ++ events) (number + 1)
      (by omega : 4 * lines.length < fuel)
    refine ⟨last, finish, ?_⟩
    rw [lineTokens, run_line, same, List.reverse_append, List.reverse_reverse, List.append_assoc]
    rfl

theorem length_lineTokens (number : Nat) (lines : List Line) :
    (lineTokens number lines).length = 4 * lines.length + 2 := by
  induction lines generalizing number with
  | nil => rfl
  | cons line lines ih =>
    rw [lineTokens, List.length_append, ih, List.length_cons]
    change 4 + _ = _
    omega

theorem ofGoal_lines (handles : Handles) (lines : List Line) :
    ∃ last : Token, last.kind = .finish ∧
      ofGoal handles .blockNode (⟨.blockMapping, {}, {}⟩ :: lineTokens 0 lines) =
        ⟨(.node .map none, {}) :: lineEvents 0 lines, .ok [last]⟩ := by
  have long := length_lineTokens 0 lines
  unfold ofGoal
  rw [List.length_cons, long]
  exact run_lines handles {} [(.node .map none, {})] 0 lines (by omega)

end EventStream

namespace Document

theorem resolve_lines (number : Nat) (lines : List Line) :
    resolve [] (lineEvents number lines) = (linePieces number lines, none) := by
  induction lines generalizing number with
  | nil => rfl
  | cons line lines ih =>
    change (line.pieces number ++ (resolve [] (lineEvents (number + 1) lines)).1,
      (resolve [] (lineEvents (number + 1) lines)).2) = _
    rw [ih]
    rfl

theorem ofTokens_lines (lines : List Line) :
    ofTokens ⟨⟨.blockMapping, {}, {}⟩ :: lineTokens 0 lines, none⟩ =
      ⟨(.node .map, {}) :: linePieces 0 lines, none, false⟩ := by
  obtain ⟨last, finish, same⟩ := EventStream.ofGoal_lines standardHandles lines
  change ofEvents (.ofGoal standardHandles .blockNode
    (⟨.blockMapping, {}, {}⟩ :: lineTokens 0 lines)) none = _
  have resolved : resolve [] ((.node .map none, {}) :: lineEvents 0 lines) =
      ((.node .map, {}) :: linePieces 0 lines, none) := by
    change ((.node .map, {}) :: (resolve [] (lineEvents 0 lines)).1,
      (resolve [] (lineEvents 0 lines)).2) = _
    rw [resolve_lines]
  have unfollowed : isFollowed [last] = false := by
    rw [isFollowed, finish]
  rw [same, ofEvents]
  dsimp only
  rw [resolved]
  dsimp only
  rw [unfollowed]

theorem toNat_of_isAlphanum {c : Char} (alphanum : c.isAlphanum = true) :
    0x20 ≤ c.toNat ∧ c.toNat ≤ 0x7e := by
  have between {low high : UInt32} (above : low ≤ c.val) (below : c.val ≤ high)
      (visible : 0x20 ≤ low ∧ high ≤ 0x7e) : 0x20 ≤ c.toNat ∧ c.toNat ≤ 0x7e :=
    ⟨UInt32.le_iff_toNat_le.mp (UInt32.le_trans visible.1 above),
      UInt32.le_iff_toNat_le.mp (UInt32.le_trans below visible.2)⟩
  rcases Bool.or_eq_true_iff.mp alphanum with letter | digit
  · rcases Bool.or_eq_true_iff.mp letter with upper | lower
    · obtain ⟨above, below⟩ := of_decide_eq_true upper
      exact between above below (by decide)
    · obtain ⟨above, below⟩ := Bool.and_eq_true_iff.mp lower
      exact between (of_decide_eq_true above) (of_decide_eq_true below) (by decide)
  · obtain ⟨above, below⟩ := Bool.and_eq_true_iff.mp digit
    exact between (of_decide_eq_true above) (of_decide_eq_true below) (by decide)

theorem mayBeWritten_of_isWritten {c : Char} (written : isWritten c = true) :
    mayBeWritten c = true := by
  rw [isWritten, isSimple, Bool.or_eq_true, Bool.or_eq_true] at written
  rcases written with (alphanum | sign) | between
  · obtain ⟨low, high⟩ := toNat_of_isAlphanum alphanum
    simp [mayBeWritten, low, high]
  · have each : ['_', '-', '.', '+'].all mayBeWritten = true := by decide
    exact List.all_eq_true.mp each c (List.contains_iff_mem.mp sign)
  · have each : [':', ' ', '\n'].all mayBeWritten = true := by decide
    exact List.all_eq_true.mp each c (List.contains_iff_mem.mp between)

theorem controlOffset?_of_written {text : List Char} (each : ∀ c ∈ text, isWritten c = true)
    (offset : Nat) : controlOffset? offset text = none := by
  induction text generalizing offset with
  | nil => rfl
  | cons c text ih =>
    obtain ⟨written, each⟩ := List.forall_mem_cons.mp each
    rw [controlOffset?, mayBeWritten_of_isWritten written]
    exact ih each _

theorem ofText_lines {text : String} {line : Line} {lines : List Line}
    (same : text.toList = lineChars (line :: lines)) (plain : ∀ l ∈ line :: lines, l.Plain) :
    ofText text = ⟨(.node .map, {}) :: linePieces 0 (line :: lines), none, false⟩ := by
  rw [ofText, same, controlOffset?_of_written (lineChars_written plain)]
  dsimp only
  rw [Yaml.ofText_lines plain, ofTokens_lines]

end Document

end InstanceBroker.Yaml
