import InstanceBroker.Decimal.Shortest
import InstanceBroker.Proofs.Decimal.Rounding

namespace InstanceBroker.Decimal

open Binary64 (Canonical Surrounds)

def Scientific.value (number : Scientific) : ℚ := number.digits * 10 ^ number.exponent

theorem decimal_eq_ratio (digits : Nat) (exponent : Int) :
    (digits : ℚ) * 10 ^ exponent =
      (digits * pow10 exponent.toNat : Nat) / (pow10 (-exponent).toNat : Nat) := by
  have power := zpow_eq_ratio 10 exponent
  push_cast at power
  rw [power, pow10_eq, pow10_eq]
  push_cast
  rw [mul_div_assoc]

section Interval

variable {mantissa : Nat} {exponent : Int}

theorem quarters_eq (quarters : Nat) (exponent : Int) :
    ((quarters * pow2 exponent.toNat : Nat) : ℚ) / (4 * pow2 (-exponent).toNat : Nat) =
      quarters / 4 * 2 ^ exponent := by
  have power := zpow_eq_ratio 2 exponent
  push_cast at power
  rw [power, pow2_eq, pow2_eq]
  push_cast
  rw [div_mul_div_comm]

theorem around_den_pos (mantissa : Nat) (exponent : Int) :
    0 < (Interval.around mantissa exponent).den :=
  Nat.mul_pos (by decide) (Nat.pow_pos two_pos)

theorem around_value (mantissa : Nat) (exponent : Int) :
    ((Interval.around mantissa exponent).value : ℚ) / (Interval.around mantissa exponent).den =
      mantissa * 2 ^ exponent := by
  refine (quarters_eq (4 * mantissa) exponent).trans ?_
  push_cast
  rw [mul_div_cancel_left₀ _ (by norm_num)]

theorem around_low (some : mantissa ≠ 0) (exponent : Int) :
    ((Interval.around mantissa exponent).low : ℚ) / (Interval.around mantissa exponent).den =
      (mantissa - Binary64.reachBelow mantissa exponent) * 2 ^ exponent := by
  refine (quarters_eq _ exponent).trans ?_
  congr 1
  unfold Binary64.reachBelow
  change ((4 * mantissa -
    if mantissa = 2 ^ 52 ∧ -1074 < exponent then 1 else 2 : Nat) : ℚ) / 4 = _
  split
  · rw [Nat.cast_sub (by omega)]
    push_cast
    linarith
  · rw [Nat.cast_sub (by omega)]
    push_cast
    linarith

theorem around_high (mantissa : Nat) (exponent : Int) :
    ((Interval.around mantissa exponent).high : ℚ) / (Interval.around mantissa exponent).den =
      (mantissa + 1 / 2) * 2 ^ exponent := by
  refine (quarters_eq (4 * mantissa + 2) exponent).trans ?_
  push_cast
  congr 1
  linarith

theorem contains_iff {interval : Interval} (positive : 0 < interval.den) (digits : Nat)
    (exponent : Int) :
    interval.contains digits exponent = true ↔
      if interval.closed then
        (interval.low : ℚ) / interval.den ≤ digits * 10 ^ exponent ∧
          (digits : ℚ) * 10 ^ exponent ≤ interval.high / interval.den
      else
        (interval.low : ℚ) / interval.den < digits * 10 ^ exponent ∧
          (digits : ℚ) * 10 ^ exponent < interval.high / interval.den := by
  have scale : (0 : ℚ) < interval.den := by exact_mod_cast positive
  have power : (0 : ℚ) < pow10 (-exponent).toNat := by
    exact_mod_cast Nat.pow_pos (n := (-exponent).toNat) (a := 10) (by decide)
  unfold Interval.contains
  rw [decimal_eq_ratio, div_le_div_iff₀ scale power, div_le_div_iff₀ power scale,
    div_lt_div_iff₀ scale power, div_lt_div_iff₀ power scale]
  dsimp only
  split
  · rw [Bool.and_eq_true, decide_eq_true_eq, decide_eq_true_eq]
    exact_mod_cast Iff.rfl
  · rw [Bool.and_eq_true, decide_eq_true_eq, decide_eq_true_eq]
    exact_mod_cast Iff.rfl

theorem surrounds_of_contains (some : mantissa ≠ 0) {digits : Nat} {k : Int}
    (among : (Interval.around mantissa exponent).contains digits k = true) :
    Surrounds mantissa exponent (digits * 10 ^ k) := by
  have bounds := (contains_iff (around_den_pos mantissa exponent) digits k).mp among
  rw [around_low some, around_high] at bounds
  rcases Nat.mod_two_eq_zero_or_one mantissa with even | odd
  · rw [if_pos (by simp [Interval.around, even])] at bounds
    exact ⟨bounds.1, bounds.2, by omega⟩
  · rw [if_neg (by simp [Interval.around, odd])] at bounds
    exact ⟨bounds.1.le, bounds.2.le, fun _ => bounds⟩

theorem contains_of_inside (some : mantissa ≠ 0) {digits : Nat} {k : Int}
    (above : (mantissa - Binary64.reachBelow mantissa exponent) * 2 ^ exponent <
      (digits : ℚ) * 10 ^ k)
    (below : (digits : ℚ) * 10 ^ k < (mantissa + 1 / 2) * 2 ^ exponent) :
    (Interval.around mantissa exponent).contains digits k = true := by
  rw [contains_iff (around_den_pos mantissa exponent), around_low some, around_high]
  split
  · exact ⟨above.le, below.le⟩
  · exact ⟨above, below⟩

end Interval

/-- Two powers of the same size are compared by their exponents, with a rational bound for the
logarithm of two on either side. -/
theorem ten_zpow_le_two_zpow {k b : Int} (above : 196 * k ≤ 59 * b) (below : 93 * k ≤ 28 * b) :
    (10 : ℚ) ^ k ≤ 2 ^ b := by
  rcases le_total 0 k with positive | negative
  · refine le_of_pow_le_pow_left₀ (n := 59) (by decide) (by positivity) ?_
    calc ((10 : ℚ) ^ k) ^ 59 = ((10 : ℚ) ^ 59) ^ k := by
          rw [← zpow_natCast, ← zpow_mul, ← zpow_natCast, ← zpow_mul, mul_comm]
      _ ≤ ((2 : ℚ) ^ 196) ^ k := zpow_le_zpow_left₀ positive (by norm_num) (by norm_num)
      _ = (2 : ℚ) ^ (196 * k) := by rw [← zpow_natCast, ← zpow_mul]; rfl
      _ ≤ (2 : ℚ) ^ (59 * b) := zpow_le_zpow_right₀ one_le_two above
      _ = ((2 : ℚ) ^ b) ^ 59 := by rw [← zpow_natCast, ← zpow_mul, mul_comm]; rfl
  · refine le_of_pow_le_pow_left₀ (n := 28) (by decide) (by positivity) ?_
    calc ((10 : ℚ) ^ k) ^ 28 = ((10 : ℚ) ^ 28) ^ k := by
          rw [← zpow_natCast, ← zpow_mul, ← zpow_natCast, ← zpow_mul, mul_comm]
      _ ≤ ((2 : ℚ) ^ 93) ^ k := by
          rw [← neg_neg k, zpow_neg, zpow_neg ((2 : ℚ) ^ 93)]
          exact inv_anti₀ (by positivity)
            (zpow_le_zpow_left₀ (by omega) (by norm_num) (by norm_num))
      _ = (2 : ℚ) ^ (93 * k) := by rw [← zpow_natCast, ← zpow_mul]; rfl
      _ ≤ (2 : ℚ) ^ (28 * b) := zpow_le_zpow_right₀ one_le_two below
      _ = ((2 : ℚ) ^ b) ^ 28 := by rw [← zpow_natCast, ← zpow_mul, mul_comm]; rfl

/-- The guess from the binary magnitude is never too high, for the powers of two that doubles
have. -/
theorem decimalMagnitude_le {num den : Nat} (some : num ≠ 0) (positive : 0 < den)
    (least : -20000 ≤ Binary64.floorLog2 num den) (most : Binary64.floorLog2 num den ≤ 20000) :
    (10 : ℚ) ^ decimalMagnitude num den ≤ num / den := by
  have reaches (k : Int) : den * pow10 k.toNat ≤ num * pow10 (-k).toNat →
      (10 : ℚ) ^ k ≤ num / den := by
    have compared := zpow_le_ratio_iff (show 0 < 10 by decide) k num positive
    push_cast at compared
    exact compared.mpr
  have low := (Binary64.floorLog2_spec some positive).1
  unfold decimalMagnitude
  dsimp only
  generalize Binary64.floorLog2 num den = bits at least most low
  rw [Int.fdiv_eq_ediv_of_nonneg _ (by decide)]
  generalize guessed : bits * 30103 / 100000 = guess
  split
  · rename_i reached
    exact reaches _ (of_decide_eq_true reached)
  · split
    · rename_i reached
      exact reaches _ (of_decide_eq_true reached)
    · exact (ten_zpow_le_two_zpow (by omega) (by omega)).trans low

section Search

variable {mantissa : Nat} {exponent : Int}

theorem onGrid?_contains {interval : Interval} {k : Int} {found : Nat}
    (same : interval.onGrid? k = some found) : interval.contains found k = true := by
  unfold Interval.onGrid? at same
  extract_lets num den below nearest other at same
  split at same
  · rename_i among
    rwa [← Option.some.inj same]
  · split at same
    · rename_i among
      rwa [← Option.some.inj same]
    · cases same

theorem onGrid?_isSome {interval : Interval} {k : Int} (positive : 0 < interval.den)
    (enough : ∀ n : Nat, |n * 10 ^ k - (interval.value : ℚ) / interval.den| ≤ 10 ^ k / 2 →
      interval.contains n k = true) : (interval.onGrid? k).isSome = true := by
  have scale : (0 : ℚ) < 10 ^ k := by positivity
  have power := zpow_eq_ratio 10 k
  push_cast at power
  have positive : 0 < interval.den * pow10 k.toNat :=
    Nat.mul_pos positive (Nat.pow_pos (by decide))
  have near := nearest_roundHalfEven (interval.value * pow10 (-k).toNat) positive
  have same : ((interval.value * pow10 (-k).toNat : Nat) : ℚ) /
      (interval.den * pow10 k.toNat : Nat) = interval.value / interval.den / 10 ^ k := by
    rw [power, pow10_eq, pow10_eq]
    push_cast
    field_simp
  have tried := enough _ (by
    have error := mul_le_mul_of_nonneg_right (same ▸ near.error) scale.le
    rwa [← abs_of_pos scale, ← abs_mul, abs_of_pos scale, sub_mul,
      div_mul_cancel₀ _ scale.ne', one_div_mul_eq_div] at error)
  unfold Interval.onGrid?
  dsimp only
  rw [if_pos tried]
  rfl

/-- Seventeen digits always suffice. -/
theorem onGrid?_seventeen (canonical : Canonical mantissa exponent) (some : mantissa ≠ 0)
    {k : Int} (low : (10 : ℚ) ^ (k + 16) ≤ mantissa * 2 ^ exponent) :
    ((Interval.around mantissa exponent).onGrid? k).isSome = true := by
  have scale : (0 : ℚ) < 2 ^ exponent := by positivity
  rw [zpow_add₀ (by norm_num)] at low
  norm_num at low
  have bits : (mantissa : ℚ) ≤ 2 ^ 53 := by exact_mod_cast canonical.bits.le
  have fine : (10 : ℚ) ^ k / 2 < Binary64.reachBelow mantissa exponent * 2 ^ exponent := by
    unfold Binary64.reachBelow
    split
    · rename_i power
      rw [power.1] at low
      push_cast at low
      linarith
    · have : (mantissa : ℚ) * 2 ^ exponent ≤ 2 ^ 53 * 2 ^ exponent := by gcongr
      linarith
  refine onGrid?_isSome (around_den_pos mantissa exponent) fun n error => ?_
  rw [around_value] at error
  have error := abs_le.mp error
  have reach := mul_le_mul_of_nonneg_right (Binary64.reachBelow_le mantissa exponent) scale.le
  refine contains_of_inside some ?_ ?_
  · rw [sub_mul]
    linarith
  · rw [add_mul]
    linarith

theorem search_contains {interval : Interval} {magnitude : Int} {left digits last : Nat}
    (found : (interval.onGrid? (magnitude + 1 - last)).isSome = true) (after : digits ≤ last)
    (within : last < digits + left) :
    interval.contains (interval.search magnitude left digits).digits
      (interval.search magnitude left digits).exponent = true := by
  induction left generalizing digits with
  | zero => omega
  | succ left ih =>
    unfold Interval.search
    dsimp only
    split
    · rename_i here
      exact onGrid?_contains here
    · rename_i nothing
      refine ih (Nat.lt_of_le_of_ne after ?_) (by omega)
      rintro rfl
      rw [nothing] at found
      cases found

end Search

theorem trimmed_value (steps : Nat) (number : Scientific) :
    (number.trimmed steps).value = number.value := by
  induction steps generalizing number with
  | zero => rfl
  | succ steps ih =>
    unfold Scientific.trimmed
    split
    · rename_i zero
      rw [ih]
      have tenfold : (number.digits : ℚ) = (number.digits / 10 : Nat) * 10 := by
        exact_mod_cast (by omega : number.digits = number.digits / 10 * 10)
      unfold Scientific.value
      rw [tenfold, zpow_add_one₀ (by norm_num)]
      dsimp only
      linarith
    · rfl

section Shortest

variable {mantissa : Nat} {exponent : Int}

theorem around_magnitude (canonical : Canonical mantissa exponent) (some : mantissa ≠ 0) :
    (10 : ℚ) ^ decimalMagnitude (Interval.around mantissa exponent).value
      (Interval.around mantissa exponent).den ≤ mantissa * 2 ^ exponent := by
  have positive := around_den_pos mantissa exponent
  have low : (2 : ℚ) ^ (-1074 : Int) ≤ mantissa * 2 ^ exponent := by
    have unit := zpow_le_zpow_right₀ (one_le_two (α := ℚ)) canonical.lowest
    have least : (1 : ℚ) ≤ mantissa := by exact_mod_cast Nat.one_le_iff_ne_zero.mpr some
    exact unit.trans (le_mul_of_one_le_left (by positivity) least)
  have high := canonical.lt
  rw [← around_value] at low high ⊢
  have nonzero : (Interval.around mantissa exponent).value ≠ 0 := by
    intro zero
    rw [zero, Nat.cast_zero, zero_div] at low
    exact absurd low (not_le.mpr (by positivity))
  obtain ⟨least, most⟩ := Binary64.floorLog2_spec nonzero positive
  have above := (zpow_lt_zpow_iff_right₀ one_lt_two).mp (low.trans_lt most)
  have below := (zpow_lt_zpow_iff_right₀ one_lt_two).mp (least.trans_lt high)
  exact decimalMagnitude_le nonzero positive (by omega) (by omega)

/-- The shortest decimal is rounded to the double it was made of. -/
theorem shortest_surrounds (canonical : Canonical mantissa exponent) (some : mantissa ≠ 0) :
    Surrounds mantissa exponent (shortest mantissa exponent).value := by
  unfold shortest
  rw [trimmed_value]
  refine surrounds_of_contains some (search_contains ?_ (show 1 ≤ 17 by decide) (by decide))
  refine onGrid?_seventeen canonical some ?_
  convert around_magnitude canonical some using 2
  omega

theorem ofDecimal_of_surrounds (negative : Bool) (canonical : Canonical mantissa exponent)
    (some : mantissa ≠ 0) {digits : Nat} {k : Int}
    (surrounds : Surrounds mantissa exponent (digits * 10 ^ k)) :
    Binary64.ofDecimal negative digits k = .finite negative mantissa exponent := by
  rw [decimal_eq_ratio] at surrounds
  exact Binary64.ofRatio_of_surrounds negative canonical some (Nat.pow_pos (by decide)) surrounds

end Shortest

end InstanceBroker.Decimal
