import Mathlib.Data.List.Basic
import Mathlib.Tactic.IntervalCases
import Mathlib.Tactic.Ring
import InstanceBroker.Text.Radix
import InstanceBroker.Text.White

namespace InstanceBroker.Text

theorem decimal_eq_ofDigitChars (digits : List Char) :
    decimal digits = Nat.ofDigitChars 10 digits 0 := by
  unfold decimal Nat.ofDigitChars
  congr 1
  funext value c
  rw [Nat.mul_comm]
  rfl

@[simp]
theorem decimal_toDigits (n : Nat) : decimal (Nat.toDigits 10 n) = n := by
  rw [decimal_eq_ofDigitChars, Nat.ofDigitChars_ten_toDigits]

theorem decimal_zeros_append (count : Nat) (digits : List Char) :
    decimal (List.replicate count '0' ++ digits) = decimal digits := by
  induction count with
  | zero => rfl
  | succ count ih => exact ih

theorem isDecimal_eq_isDigit (c : Char) : isDecimal c = c.isDigit := by
  simp only [isDecimal, Char.isDigit, Char.le_def, ge_iff_le]

theorem isDecimal_of_mem_toDigits {n : Nat} {c : Char} (among : c ∈ Nat.toDigits 10 n) :
    isDecimal c = true := by
  rw [isDecimal_eq_isDigit]
  exact Nat.isDigit_of_mem_toDigits (by decide) (Nat.le_refl 10) among

theorem eq_zero_of_head?_toDigits {n : Nat} (zero : (Nat.toDigits 10 n).head? = some '0') :
    n = 0 := by
  induction n using Nat.strongRecOn with
  | ind n ih =>
    by_cases short : n < 10
    · rw [Nat.toDigits_of_lt_base short] at zero
      interval_cases n <;> first | rfl | cases zero
    · have base : 10 ≤ n := Nat.le_of_not_lt short
      rw [Nat.toDigits_of_base_le (by decide) base,
        List.head?_append_of_ne_nil _ Nat.toDigits_ne_nil] at zero
      have small := ih (n / 10) (Nat.div_lt_self (by omega) (by decide)) zero
      omega

theorem isDecimal_of_mem_padded {width n : Nat} {c : Char} (among : c ∈ padded width n) :
    isDecimal c = true := by
  rcases List.mem_append.mp among with filled | digit
  · rw [List.eq_of_mem_replicate filled]
    rfl
  · exact isDecimal_of_mem_toDigits digit

theorem length_padded {width n : Nat} (wide : 0 < width) (fits : n < 10 ^ width) :
    (padded width n).length = width := by
  have short := (Nat.length_toDigits_le_iff (by decide) wide).mpr fits
  rw [padded, List.length_append, List.length_replicate]
  omega

@[simp]
theorem decimal_padded (width n : Nat) : decimal (padded width n) = n := by
  rw [padded, decimal_zeros_append, decimal_toDigits]

theorem decimal_append_zeros (digits : List Char) (count : Nat) :
    decimal (digits ++ List.replicate count '0') = decimal digits * 10 ^ count := by
  rw [decimal_eq_ofDigitChars, Nat.ofDigitChars_append, Nat.ofDigitChars_replicate_zero,
    ← decimal_eq_ofDigitChars, Nat.mul_comm]

theorem decimal_cons (c : Char) (digits : List Char) :
    decimal (c :: digits) = decimalValue c * 10 ^ digits.length + decimal digits := by
  have carried (value : Nat) :
      digits.foldl (fun value c => value * 10 + decimalValue c) value =
        value * 10 ^ digits.length + decimal digits := by
    induction digits generalizing value with
    | nil => simp [decimal]
    | cons d digits ih =>
      rw [decimal, List.foldl_cons, List.foldl_cons, ih, ih (0 * 10 + decimalValue d),
        List.length_cons, Nat.pow_succ]
      ring
  exact (carried _).trans (by simp only [Nat.zero_mul, Nat.zero_add])

theorem decimal_dropWhile_zeros (digits : List Char) :
    decimal (digits.dropWhile (· = '0')) = decimal digits := by
  induction digits with
  | nil => rfl
  | cons c digits ih =>
    by_cases zero : c = '0'
    · subst zero
      exact ih
    · rw [List.dropWhile_cons_of_neg (by simpa using zero)]

theorem decimal_bounds {c : Char} (digit : isDecimal c = true) :
    48 ≤ c.toNat ∧ c.toNat ≤ 57 := by
  simpa [isDecimal, Char.le_def, UInt32.le_iff_toNat_le] using digit

theorem decimalValue_lt {c : Char} (digit : isDecimal c = true) : decimalValue c < 10 := by
  have bounds := decimal_bounds digit
  change c.toNat - 48 < 10
  omega

theorem decimal_lt {digits : List Char} (each : ∀ c ∈ digits, isDecimal c = true) :
    decimal digits < 10 ^ digits.length := by
  induction digits with
  | nil => decide
  | cons c digits ih =>
    obtain ⟨digit, each⟩ := List.forall_mem_cons.mp each
    have small : decimalValue c ≤ 9 := Nat.le_of_lt_succ (decimalValue_lt digit)
    calc decimal (c :: digits) = decimalValue c * 10 ^ digits.length + decimal digits :=
          decimal_cons c digits
      _ < 9 * 10 ^ digits.length + 10 ^ digits.length :=
          Nat.add_lt_add_of_le_of_lt (Nat.mul_le_mul_right _ small) (ih each)
      _ = 10 ^ (c :: digits).length := by rw [List.length_cons, Nat.pow_succ]; omega

theorem le_decimal {c : Char} {digits : List Char} (digit : isDecimal c = true) (some : c ≠ '0') :
    10 ^ digits.length ≤ decimal (c :: digits) := by
  have bounds := decimal_bounds digit
  have other : c.toNat ≠ 48 := fun zero => some (Char.toNat_inj.mp zero)
  have positive : 1 ≤ decimalValue c := by
    change 1 ≤ c.toNat - 48
    omega
  rw [decimal_cons]
  exact (Nat.le_mul_of_pos_left _ positive).trans (Nat.le_add_right ..)

theorem number?_ten {digits : List Char} (each : ∀ c ∈ digits, isDecimal c = true) :
    number? 10 digits = some (decimal digits) := by
  unfold number? decimal
  generalize 0 = value
  induction digits generalizing value with
  | nil => rfl
  | cons c digits ih =>
    obtain ⟨digit, each⟩ := List.forall_mem_cons.mp each
    have meant : digit? c = some (decimalValue c) :=
      if_pos ((Bool.and_eq_true ..).mp digit |>.imp of_decide_eq_true of_decide_eq_true)
    rw [List.foldlM_cons, meant, Option.bind_some,
      if_pos (decimalValue_lt digit)]
    exact ih each _

end InstanceBroker.Text
