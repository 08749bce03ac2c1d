import Mathlib.Data.List.TakeWhile
import InstanceBroker.Proofs.Except
import InstanceBroker.Proofs.Text.Digits
import InstanceBroker.Proofs.Timestamp.Civil
import InstanceBroker.Timestamp.Rfc3339

namespace InstanceBroker.Timestamp

/-- The year in UTC has four digits, and the second is none that was put in. -/
structure IsPlain (timestamp : Timestamp) : Prop where
  year_nonneg : 0 ≤ (Civil.Date.ofDays (timestamp.seconds / secondsPerDay)).year
  year_le : (Civil.Date.ofDays (timestamp.seconds / secondsPerDay)).year ≤ 9999
  nanos_lt : timestamp.nanos < Duration.nanosPerSecond

theorem not_isWhite_of_isDecimal {c : Char} (digit : Text.isDecimal c = true) :
    Text.isWhite c = false := by
  simp only [Text.isDecimal, Bool.and_eq_true, decide_eq_true_eq, Char.le_def,
    UInt32.le_iff_toNat_le]
    at digit
  have lower : 48 ≤ c.toNat := digit.1
  have upper : c.toNat ≤ 57 := digit.2
  simp only [Text.isWhite, Bool.or_eq_false_iff, Bool.and_eq_false_iff, decide_eq_false_iff_not]
  omega

theorem skipWhite_cons {c : Char} (visible : Text.isWhite c = false) (rest : List Char) :
    skipWhite (c :: rest) = c :: rest := by
  rw [skipWhite, List.dropWhile_cons, visible]
  rfl

theorem skipWhite_append {digits : List Char} (some : digits ≠ [])
    (each : ∀ c ∈ digits, Text.isDecimal c = true) (rest : List Char) :
    skipWhite (digits ++ rest) = digits ++ rest := by
  cases digits with
  | nil => exact absurd rfl some
  | cons c others =>
    exact skipWhite_cons (not_isWhite_of_isDecimal (each c List.mem_cons_self)) (others ++ rest)

theorem takeWhile_take {most : Nat} {digits rest : List Char}
    (each : ∀ c ∈ digits, Text.isDecimal c = true) (short : digits.length ≤ most)
    (ends : digits.length = most ∨ ∀ c ∈ rest.head?, Text.isDecimal c = false) :
    ((digits ++ rest).take most).takeWhile Text.isDecimal = digits := by
  have all : digits.takeWhile Text.isDecimal = digits := List.takeWhile_eq_self_iff.mpr each
  rw [List.take_append, List.take_of_length_le short, List.takeWhile_append, all, if_pos rfl]
  rcases ends with full | ends
  · rw [full, Nat.sub_self, List.take_zero, List.takeWhile_nil, List.append_nil]
  · cases taken : rest.take (most - digits.length) with
    | nil => exact List.append_nil digits
    | cons c others =>
      have head : c ∈ rest.head? := by
        cases rest with
        | nil => rw [List.take_nil] at taken; cases taken
        | cons first _ =>
          cases left : most - digits.length with
          | zero => rw [left] at taken; cases taken
          | succ => rw [left] at taken; cases taken; rfl
      rw [List.takeWhile_cons_of_neg (by rw [ends c head]; decide), List.append_nil]

theorem number_append {most : Nat} {digits rest : List Char} (some : digits ≠ [])
    (each : ∀ c ∈ digits, Text.isDecimal c = true) (short : digits.length ≤ most)
    (ends : digits.length = most ∨ ∀ c ∈ rest.head?, Text.isDecimal c = false) :
    number most (digits ++ rest) = .ok (Text.decimal digits, rest) := by
  have taken := takeWhile_take each short ends
  have left : (digits ++ rest).drop digits.length = rest := List.drop_left
  cases digits with
  | nil => exact absurd rfl some
  | cons c others =>
    unfold number
    dsimp only [List.cons_append] at taken left ⊢
    rw [taken, left]
    rfl

theorem padded_ne_nil (width n : Nat) : Text.padded width n ≠ [] :=
  List.append_ne_nil_of_right_ne_nil _ Nat.toDigits_ne_nil

theorem number_padded {width n : Nat} (wide : 0 < width) (fits : n < 10 ^ width)
    (rest : List Char) : number width (Text.padded width n ++ rest) = .ok (n, rest) := by
  have length := Text.length_padded wide fits
  rw [number_append (padded_ne_nil width n) (fun _ => Text.isDecimal_of_mem_padded)
    (Nat.le_of_eq length) (.inl length), Text.decimal_padded]

theorem bounded_padded {low high n : Nat} (low_le : low ≤ n) (le_high : n ≤ high)
    (small : n < 100)
    (rest : List Char) : bounded low high (Text.padded 2 n ++ rest) = .ok (n, rest) := by
  rw [bounded, skipWhite_append (padded_ne_nil 2 n) (fun _ => Text.isDecimal_of_mem_padded),
    number_padded (by decide) small, ok_bind]
  dsimp only
  rw [if_neg (by omega)]
  rfl

theorem mark_cons {c : Char} (visible : Text.isWhite c = false) (rest : List Char) :
    mark c (c :: rest) = .ok ((), rest) := by
  rw [mark, skipWhite_cons visible]
  exact if_pos rfl

theorem year_yearChars {y : Int} (nonneg : 0 ≤ y) (le : y ≤ 9999) (rest : List Char) :
    year (yearChars y ++ rest) = .ok (y, rest) := by
  have read : number 4 (Text.padded 4 y.toNat ++ rest) = .ok (y.toNat, rest) :=
    number_padded (by decide) (by omega) rest
  have each : ∀ c ∈ Text.padded 4 y.toNat, Text.isDecimal c = true :=
    fun _ => Text.isDecimal_of_mem_padded
  have back : (y.toNat : Int) = y := Int.toNat_of_nonneg nonneg
  rw [yearChars, if_pos ⟨nonneg, le⟩, year, skipWhite_append (padded_ne_nil 4 y.toNat) each]
  cases spelled : Text.padded 4 y.toNat with
  | nil => exact absurd spelled (padded_ne_nil 4 y.toNat)
  | cons c others =>
    rw [spelled] at read each
    have digit := each c List.mem_cons_self
    have unsigned : c ≠ '-' ∧ c ≠ '+' := by
      constructor <;> (rintro rfl; cases digit)
    split
    · rename_i same
      exact absurd (List.cons.inj same).1 unsigned.1
    · rename_i same
      exact absurd (List.cons.inj same).1 unsigned.2
    · rw [read, ok_bind]
      dsimp only
      rw [back]
      change (if y < -2147483648 ∨ 2147483647 < y then _ else Except.ok (y, rest)) = _
      rw [if_neg (by omega)]

theorem fraction_padded {width n : Nat} (wide : 0 < width) (short : width ≤ 9)
    (fits : n < 10 ^ width) :
    fraction ('.' :: Text.padded width n ++ ['Z']) = .ok (n * 10 ^ (9 - width), ['Z']) := by
  have length := Text.length_padded wide fits
  have read : number 9 (Text.padded width n ++ ['Z']) = .ok (n, ['Z']) := by
    have ends : ∀ c ∈ ['Z'].head?, Text.isDecimal c = false := by
      rintro _ ⟨⟩
      rfl
    rw [number_append (padded_ne_nil width n) (fun _ => Text.isDecimal_of_mem_padded)
      ((Nat.le_of_eq length).trans short) (.inr ends), Text.decimal_padded]
  rw [List.cons_append, fraction, read, ok_bind]
  dsimp only
  rw [List.length_append, length, Nat.add_sub_cancel]
  rfl

theorem fraction_fractionChars {nanos : Nat} (bound : nanos < Duration.nanosPerSecond) :
    fraction (fractionChars nanos ++ ['Z']) = .ok (nanos, ['Z']) := by
  have bound : nanos < 1000000000 := bound
  unfold fractionChars
  split
  · rename_i none
    rw [none]
    rfl
  split
  · rename_i millis
    rw [fraction_padded (by decide) (by decide) (by omega)]
    congr 2
    omega
  split
  · rename_i micros
    rw [fraction_padded (by decide) (by decide) (by omega)]
    congr 2
    omega
  · rw [fraction_padded (by decide) (by decide) (by omega)]
    congr 2
    omega

theorem ranges_of_isValid {date : Civil.Date} (valid : date.isValid = true) :
    (1 ≤ date.month ∧ date.month ≤ 12) ∧ 1 ≤ date.day ∧ date.day ≤ 31 := by
  simp only [Civil.Date.isValid, Bool.and_eq_true, decide_eq_true_eq] at valid
  obtain ⟨⟨months, first⟩, last⟩ := valid
  have most : Civil.daysInMonth date.year date.month ≤ 31 := by
    unfold Civil.daysInMonth
    split
    · split <;> decide
    · decide
    · decide
    · decide
    · decide
    · decide
  exact ⟨months, first, Nat.le_trans last most⟩

theorem assemble_eq {days : Int} {time nanos : Nat} (clock : time < 86400)
    (year_nonneg : 0 ≤ (Civil.Date.ofDays days).year)
    (year_le : (Civil.Date.ofDays days).year ≤ 9999) :
    assemble (Civil.Date.ofDays days) (time / 3600) (time / 60 % 60) (time % 60) nanos 0 =
      .ok ⟨days * secondsPerDay + time, nanos⟩ := by
  have sum : time / 3600 * 3600 + time / 60 % 60 * 60 + time % 60 = time := by omega
  have sixty : time % 60 ≠ 60 := by omega
  have same : (days * secondsPerDay + (time : Int)) / secondsPerDay = days := by
    unfold secondsPerDay
    omega
  have early : ¬(Civil.Date.ofDays days).year < minYear := by
    unfold minYear
    omega
  have late : ¬maxYear < (Civil.Date.ofDays days).year := by
    unfold maxYear
    omega
  have zone : ¬secondsPerDay ≤ ((0 : Int).natAbs : Int) := by decide
  unfold assemble
  simp only [early, late, zone, sixty, Civil.isValid_ofDays, Civil.toDays_ofDays, sum, same,
    Bool.not_true, Bool.false_eq_true, or_self, if_false, Int.sub_zero]
  rfl

theorem ofChars_chars {timestamp : Timestamp} (plain : timestamp.IsPlain) :
    ofChars timestamp.chars = .ok timestamp := by
  obtain ⟨seconds, nanos⟩ := timestamp
  obtain ⟨year_nonneg, year_le, nanos_lt⟩ := plain
  dsimp only at year_nonneg year_le nanos_lt
  have leap : nanos / Duration.nanosPerSecond = 0 := Nat.div_eq_of_lt nanos_lt
  have whole : nanos % Duration.nanosPerSecond = nanos := Nat.mod_eq_of_lt nanos_lt
  obtain ⟨months, days⟩ := ranges_of_isValid (Civil.isValid_ofDays (seconds / secondsPerDay))
  have dash (rest : List Char) : mark '-' ('-' :: rest) = .ok ((), rest) := mark_cons rfl rest
  have colon (rest : List Char) : mark ':' (':' :: rest) = .ok ((), rest) := mark_cons rfl rest
  unfold chars
  dsimp only
  rw [leap, whole, Nat.add_zero]
  obtain ⟨time, timed⟩ : ∃ time : Nat, seconds % secondsPerDay = time :=
    ⟨(seconds % secondsPerDay).toNat, by unfold secondsPerDay; omega⟩
  rw [timed, Int.toNat_natCast]
  have clock : time < 86400 := by
    unfold secondsPerDay at timed
    omega
  simp only [List.append_assoc, List.cons_append]
  unfold ofChars
  rw [year_yearChars year_nonneg year_le, ok_bind]
  dsimp only
  rw [dash, ok_bind, bounded_padded months.1 months.2 (by omega), ok_bind, dash, ok_bind,
    bounded_padded days.1 days.2 (by omega), ok_bind]
  dsimp only
  rw [if_pos (.inl rfl), pure_bind, bounded_padded (Nat.zero_le _) (by omega) (by omega), ok_bind,
    colon, ok_bind, bounded_padded (Nat.zero_le _) (by omega) (by omega), ok_bind, colon, ok_bind,
    bounded_padded (Nat.zero_le _) (by omega) (by omega), ok_bind,
    fraction_fractionChars nanos_lt, ok_bind]
  change assemble (Civil.Date.ofDays (seconds / secondsPerDay)) (time / 3600) (time / 60 % 60)
    (time % 60) nanos 0 = _
  rw [assemble_eq clock year_nonneg year_le, ← timed, Int.mul_comm, Int.mul_ediv_add_emod]

theorem ofText_text {timestamp : Timestamp} (plain : timestamp.IsPlain) :
    ofText timestamp.text = .ok timestamp := by
  rw [ofText, text, String.toList_ofList, ofChars_chars plain]

end InstanceBroker.Timestamp
