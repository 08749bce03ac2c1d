import InstanceBroker.Duration.Seconds
import InstanceBroker.Proofs.Decimal.Rounding

namespace InstanceBroker.Duration

open Binary64 (Measures)

/-- Shorter than `2 ^ 23` seconds, which is 97 days. -/
def IsShort (duration : Duration) : Prop := duration.nanos < 2 ^ 23 * nanosPerSecond

instance (duration : Duration) : Decidable duration.IsShort :=
  inferInstanceAs (Decidable (_ < _))

theorem fraction_near (duration : Duration) :
    ∃ q, ((Binary64.ofNat duration.subsecNanos).div (Binary64.ofNat nanosPerSecond)).Measures
        false q ∧ |q - duration.subsecNanos / 10 ^ 9| ≤ 2 ^ (-53 : Int) / 2 := by
  have less : duration.subsecNanos < 10 ^ 9 := Nat.mod_lt _ (by decide)
  have nanos : (Binary64.ofNat duration.subsecNanos).Measures false duration.subsecNanos :=
    Binary64.ofNat_measures (less.trans (by decide))
  have second : (Binary64.ofNat nanosPerSecond).Measures false nanosPerSecond :=
    Binary64.ofNat_measures (by decide)
  obtain ⟨num, den, positive, quotient, same⟩ := nanos.div second (by norm_num [nanosPerSecond])
  have quotient : (num : ℚ) / den = duration.subsecNanos / 10 ^ 9 := by
    rw [quotient]
    norm_num [nanosPerSecond]
  have below : (num : ℚ) / den < 2 ^ (-53 + 53 : Int) := by
    rw [quotient, div_lt_iff₀ (by norm_num)]
    norm_num
    exact_mod_cast less
  rw [same, ← quotient]
  exact Binary64.ofRatio_near false positive below (by decide) (by decide)

/-- The whole seconds take 23 bits at most, which leaves 30 of them for the fraction. -/
theorem toSeconds_near {duration : Duration} (short : duration.IsShort) :
    ∃ q, duration.toSeconds.Measures false q ∧ |q * 10 ^ 9 - duration.nanos| < 1 / 2 := by
  have few : duration.wholeSeconds < 2 ^ 23 :=
    (Nat.div_lt_iff_lt_mul (by decide)).mpr short
  have less : duration.subsecNanos < 10 ^ 9 := Nat.mod_lt _ (by decide)
  have nanos : (duration.nanos : ℚ) = duration.wholeSeconds * 10 ^ 9 + duration.subsecNanos := by
    exact_mod_cast (Nat.div_add_mod' duration.nanos (10 ^ 9)).symm
  have seconds : (Binary64.ofNat duration.wholeSeconds).Measures false duration.wholeSeconds :=
    Binary64.ofNat_measures (few.trans (by decide))
  obtain ⟨fraction, measured, first⟩ := fraction_near duration
  obtain ⟨num, den, positive, sum, same⟩ := seconds.add measured
  have few : (duration.wholeSeconds : ℚ) + 1 ≤ 2 ^ 23 := by exact_mod_cast few
  have less : (duration.subsecNanos : ℚ) + 1 ≤ 10 ^ 9 := by exact_mod_cast less
  have first := abs_le.mp first
  norm_num at first
  have below : (num : ℚ) / den < 2 ^ (-30 + 53 : Int) := by
    rw [sum]
    norm_num
    linarith
  obtain ⟨q, total, second⟩ :=
    Binary64.ofRatio_near false positive below (by decide) (by decide)
  rw [sum] at second
  have second := abs_le.mp second
  norm_num at second
  rw [← same] at total
  exact ⟨q, total, abs_lt.mpr ⟨by linarith, by linarith⟩⟩

theorem ofSeconds?_measures {seconds : Binary64} {q : ℚ} {nanos : Nat}
    (measured : seconds.Measures false q) (bounded : q < 2 ^ 64)
    (near : Nearest (q * 10 ^ 9) nanos) : ofSeconds? seconds = .ok ⟨nanos⟩ := by
  obtain ⟨mantissa, exponent, rfl, -, rfl⟩ := measured
  have positive := Binary64.ratio_pos mantissa exponent
  rw [← Binary64.ratio_eq] at bounded near
  have fits : ¬ (Binary64.ratio mantissa exponent).2 * pow2 64 ≤
      (Binary64.ratio mantissa exponent).1 := by
    rw [div_lt_iff₀ (by exact_mod_cast positive), mul_comm] at bounded
    rw [pow2_eq, Nat.not_le]
    exact_mod_cast bounded
  have read : roundHalfEven ((Binary64.ratio mantissa exponent).1 * nanosPerSecond)
      (Binary64.ratio mantissa exponent).2 = nanos := by
    refine roundHalfEven_eq positive ?_
    rwa [Nat.cast_mul, mul_div_right_comm, show (nanosPerSecond : ℚ) = 10 ^ 9 by
      norm_num [nanosPerSecond]]
  have unsigned : ¬ ((false : Bool) = true ∧ mantissa ≠ 0) := by simp
  unfold ofSeconds?
  dsimp only
  rw [if_neg unsigned, if_neg fits, read]

theorem ofSeconds?_toSeconds {duration : Duration} (short : duration.IsShort) :
    ofSeconds? duration.toSeconds = .ok duration := by
  obtain ⟨q, measured, near⟩ := toSeconds_near short
  refine ofSeconds?_measures measured ?_ (.of_error (by rwa [abs_sub_comm]))
  have close := abs_lt.mp near
  have few : (duration.nanos : ℚ) < 2 ^ 23 * 10 ^ 9 := by exact_mod_cast short
  linarith

/-- From there on a double cannot tell all nanoseconds apart. -/
example : ofSeconds? (toSeconds ⟨2 ^ 23 * nanosPerSecond + 1⟩) =
    .ok ⟨2 ^ 23 * nanosPerSecond + 2⟩ := by decide +kernel

end InstanceBroker.Duration
