import Mathlib.Algebra.Order.Field.Power
import Mathlib.Data.Rat.Cast.Order
import Mathlib.Tactic.FieldSimp
import Mathlib.Tactic.Linarith
import Mathlib.Tactic.Positivity
import InstanceBroker.Decimal.Binary64

namespace InstanceBroker

/-- A natural number no further than one half from `q`; at one half it is even. -/
def Nearest (q : ℚ) (n : Nat) : Prop := |n - q| < 1 / 2 ∨ |n - q| = 1 / 2 ∧ n % 2 = 0

theorem Nearest.error {q : ℚ} {n : Nat} (near : Nearest q n) : |n - q| ≤ 1 / 2 := by
  rcases near with inside | ⟨tie, _⟩
  · exact inside.le
  · exact tie.le

theorem Nearest.of_error {q : ℚ} {n : Nat} (inside : |n - q| < 1 / 2) : Nearest q n := .inl inside

theorem nearest_self (n : Nat) : Nearest n n := .of_error (by norm_num)

theorem Nearest.le {q : ℚ} {n bound : Nat} (near : Nearest q n) (below : q ≤ bound) :
    n ≤ bound := by
  by_contra above
  have gap : (bound : ℚ) + 1 ≤ n := by exact_mod_cast Nat.lt_of_not_le above
  have close := abs_le.mp near.error
  linarith

theorem Nearest.ge {q : ℚ} {n bound : Nat} (near : Nearest q n) (above : bound ≤ q) :
    bound ≤ n := by
  by_contra below
  have gap : (n : ℚ) + 1 ≤ bound := by exact_mod_cast Nat.lt_of_not_le below
  have close := abs_le.mp near.error
  linarith

/-- Two candidates are both one half away, and then one of them is odd. -/
theorem Nearest.not_lt {q : ℚ} {n m : Nat} (near : Nearest q n) (other : Nearest q m) :
    ¬ n < m := by
  intro less
  have gap : (n : ℚ) + 1 ≤ m := by exact_mod_cast less
  have low := abs_le.mp near.error
  have high := abs_le.mp other.error
  have next : m = n + 1 := by
    have : (m : ℚ) = n + 1 := by linarith
    exact_mod_cast this
  have tie : |(n : ℚ) - q| = 1 / 2 := by rw [abs_of_nonpos (by linarith)]; linarith
  have otherTie : |(m : ℚ) - q| = 1 / 2 := by rw [abs_of_nonneg (by linarith)]; linarith
  have even : n % 2 = 0 := near.elim (fun inside => absurd inside tie.not_lt) And.right
  have otherEven : m % 2 = 0 := other.elim (fun inside => absurd inside otherTie.not_lt) And.right
  omega

theorem Nearest.unique {q : ℚ} {n m : Nat} (near : Nearest q n) (other : Nearest q m) : n = m :=
  Nat.le_antisymm (Nat.le_of_not_lt (other.not_lt near)) (Nat.le_of_not_lt (near.not_lt other))

theorem nearest_roundHalfEven (num : Nat) {den : Nat} (positive : 0 < den) :
    Nearest (num / den) (roundHalfEven num den) := by
  have scale : (0 : ℚ) < den := by exact_mod_cast positive
  have below : num % den < den := Nat.mod_lt num positive
  have whole : (num : ℚ) = (num / den : Nat) * den + (num % den : Nat) := by
    exact_mod_cast (Nat.div_add_mod' num den).symm
  have parts : (num : ℚ) / den = (num / den : Nat) + (num % den : Nat) / den := by
    rw [div_eq_iff scale.ne', add_mul, div_mul_cancel₀ _ scale.ne']
    exact whole
  unfold roundHalfEven
  dsimp only
  rw [parts]
  split
  · rename_i down
    rcases down with less | ⟨tie, even⟩
    · left
      rw [sub_add_cancel_left, abs_neg, abs_of_nonneg (by positivity),
        div_lt_div_iff₀ scale two_pos]
      exact_mod_cast (by omega : num % den * 2 < 1 * den)
    · right
      refine ⟨?_, even⟩
      rw [sub_add_cancel_left, abs_neg, abs_of_nonneg (by positivity),
        div_eq_div_iff scale.ne' two_ne_zero]
      exact_mod_cast (by omega : num % den * 2 = 1 * den)
  · rename_i up
    have less : ((num % den : Nat) : ℚ) / den < 1 :=
      (div_lt_one scale).mpr (by exact_mod_cast below)
    have error : |(((num / den + 1 : Nat) : ℚ) - ((num / den : Nat) + (num % den : Nat) / den))| =
        1 - (num % den : Nat) / den := by
      push_cast
      rw [add_sub_add_left_eq_sub, abs_of_pos (by linarith)]
    rw [Nearest, error]
    rcases (by omega : den < 2 * (num % den) ∨
      den = 2 * (num % den) ∧ (num / den + 1) % 2 = 0) with
      more | ⟨tie, even⟩
    · left
      have half : 1 / 2 < ((num % den : Nat) : ℚ) / den :=
        (div_lt_div_iff₀ two_pos scale).mpr
          (by exact_mod_cast (by omega : 1 * den < num % den * 2))
      linarith
    · right
      have half : ((num % den : Nat) : ℚ) / den = 1 / 2 :=
        (div_eq_div_iff scale.ne' two_ne_zero).mpr
          (by exact_mod_cast (by omega : num % den * 2 = 1 * den))
      exact ⟨by linarith, even⟩

theorem roundHalfEven_eq {num den n : Nat} (positive : 0 < den) (near : Nearest (num / den) n) :
    roundHalfEven num den = n :=
  (nearest_roundHalfEven num positive).unique near

theorem pow2_eq (n : Nat) : pow2 n = 2 ^ n := rfl

theorem pow10_eq (n : Nat) : pow10 n = 10 ^ n := rfl

theorem zpow_eq_ratio (base : Nat) (exponent : Int) :
    (base : ℚ) ^ exponent = (base ^ exponent.toNat : Nat) / (base ^ (-exponent).toNat : Nat) := by
  cases exponent with
  | ofNat n =>
    have none : (-(n : Int)).toNat = 0 := by omega
    simp [none]
  | negSucc n =>
    have none : (Int.negSucc n).toNat = 0 := rfl
    simp [none, zpow_negSucc]

theorem zpow_le_ratio_iff {base : Nat} (based : 0 < base) (exponent : Int) (num : Nat) {den : Nat}
    (positive : 0 < den) :
    (base : ℚ) ^ exponent ≤ num / den ↔
      den * base ^ exponent.toNat ≤ num * base ^ (-exponent).toNat := by
  have scale : (0 : ℚ) < den := by exact_mod_cast positive
  have power : (0 : ℚ) < (base ^ (-exponent).toNat : Nat) := by positivity
  rw [zpow_eq_ratio, div_le_div_iff₀ power scale, Nat.mul_comm den]
  exact_mod_cast Iff.rfl

namespace Binary64

theorem ratio_pos (mantissa : Nat) (exponent : Int) : 0 < (ratio mantissa exponent).2 :=
  Nat.pow_pos two_pos

theorem ratio_eq (mantissa : Nat) (exponent : Int) :
    ((ratio mantissa exponent).1 : ℚ) / (ratio mantissa exponent).2 =
      mantissa * 2 ^ exponent := by
  have power := zpow_eq_ratio 2 exponent
  push_cast at power
  simp [ratio, pow2_eq, power, mul_div_assoc]

theorem floorLog2_spec {num den : Nat} (some : num ≠ 0) (positive : 0 < den) :
    (2 : ℚ) ^ floorLog2 num den ≤ num / den ∧
      (num : ℚ) / den < 2 ^ (floorLog2 num den + 1) := by
  have scale : (0 : ℚ) < den := by exact_mod_cast positive
  have numLow : (2 : ℚ) ^ (num.log2 : Int) ≤ num := by
    exact_mod_cast Nat.log2_self_le some
  have numHigh : (num : ℚ) < 2 ^ ((num.log2 : Int) + 1) := by
    exact_mod_cast Nat.lt_log2_self
  have denLow : (2 : ℚ) ^ (den.log2 : Int) ≤ den := by
    exact_mod_cast Nat.log2_self_le positive.ne'
  have denHigh : (den : ℚ) < 2 ^ ((den.log2 : Int) + 1) := by
    exact_mod_cast Nat.lt_log2_self
  have reached := zpow_le_ratio_iff two_pos ((num.log2 : Int) - den.log2) num positive
  push_cast at reached
  unfold floorLog2 pow2
  dsimp only
  split
  · rename_i guess
    refine ⟨reached.mpr guess, ?_⟩
    rw [div_lt_iff₀ scale]
    calc (num : ℚ) < 2 ^ ((num.log2 : Int) + 1) := numHigh
      _ = 2 ^ ((num.log2 : Int) - den.log2 + 1) * 2 ^ (den.log2 : Int) := by
        rw [← zpow_add₀ two_ne_zero]
        congr 1
        omega
      _ ≤ 2 ^ ((num.log2 : Int) - den.log2 + 1) * den := by gcongr
  · rename_i guess
    refine ⟨?_, ?_⟩
    · rw [le_div_iff₀ scale]
      calc (2 : ℚ) ^ ((num.log2 : Int) - den.log2 - 1) * den
          ≤ 2 ^ ((num.log2 : Int) - den.log2 - 1) * 2 ^ ((den.log2 : Int) + 1) := by gcongr
        _ = 2 ^ (num.log2 : Int) := by
          rw [← zpow_add₀ two_ne_zero]
          congr 1
          omega
        _ ≤ num := numLow
    · rw [Int.sub_add_cancel]
      exact lt_of_not_ge fun above => guess (reached.mp above)

theorem floorLog2_lt {num den : Nat} {k : Int} (some : num ≠ 0) (positive : 0 < den)
    (high : (num : ℚ) / den < 2 ^ k) : floorLog2 num den < k :=
  (zpow_lt_zpow_iff_right₀ one_lt_two).mp ((floorLog2_spec some positive).1.trans_lt high)

/-- A double as it is written: with all its bits, or as small as doubles are. -/
structure Canonical (mantissa : Nat) (exponent : Int) : Prop where
  bits : mantissa < 2 ^ 53
  lowest : -1074 ≤ exponent
  highest : exponent ≤ 971
  full : 2 ^ 52 ≤ mantissa ∨ exponent = -1074

theorem Canonical.exponent_le {m n : Nat} {e f : Int} (first : Canonical m e)
    (second : Canonical n f) (same : (m : ℚ) * 2 ^ e = n * 2 ^ f) : f ≤ e := by
  by_contra less
  have less : e + 1 ≤ f := by omega
  have full : 2 ^ 52 ≤ n := second.full.resolve_right (by have := first.lowest; omega)
  have short : (m : ℚ) < 2 ^ 53 := by exact_mod_cast first.bits
  have long : (2 : ℚ) ^ 52 ≤ n := by exact_mod_cast full
  have double : (2 : ℚ) ^ e * 2 ≤ 2 ^ f := by
    rw [← zpow_add_one₀ two_ne_zero]
    exact zpow_le_zpow_right₀ one_le_two less
  have unit : (0 : ℚ) < 2 ^ e := by positivity
  have : (2 : ℚ) ^ 52 * (2 ^ e * 2) ≤ n * 2 ^ f := by gcongr
  have : (m : ℚ) * 2 ^ e < 2 ^ 53 * 2 ^ e := by gcongr
  linarith

theorem Canonical.unique {m n : Nat} {e f : Int} (first : Canonical m e) (second : Canonical n f)
    (same : (m : ℚ) * 2 ^ e = n * 2 ^ f) : m = n ∧ e = f := by
  obtain rfl : e = f :=
    Int.le_antisymm (second.exponent_le first same.symm) (first.exponent_le second same)
  exact ⟨by exact_mod_cast mul_right_cancel₀ (zpow_ne_zero e two_ne_zero) same, rfl⟩

theorem Canonical.scale_le {m : Nat} {e : Int} (canonical : Canonical m e) :
    (2 : ℚ) ^ (53 : Int) * 2 ^ e ≤ 2 ^ (1024 : Int) := by
  rw [← zpow_add₀ two_ne_zero]
  exact zpow_le_zpow_right₀ one_le_two (by have := canonical.highest; omega)

theorem Canonical.lt {m : Nat} {e : Int} (canonical : Canonical m e) :
    (m : ℚ) * 2 ^ e < 2 ^ (1024 : Int) := by
  have short : (m : ℚ) < 2 ^ (53 : Int) := by exact_mod_cast canonical.bits
  calc (m : ℚ) * 2 ^ e < 2 ^ (53 : Int) * 2 ^ e := by gcongr
    _ ≤ 2 ^ (1024 : Int) := canonical.scale_le

/-- A double in canonical form, with its sign apart. -/
def Measures (x : Binary64) (negative : Bool) (q : ℚ) : Prop :=
  ∃ mantissa exponent, x = finite negative mantissa exponent ∧ Canonical mantissa exponent ∧
    (mantissa : ℚ) * 2 ^ exponent = q

theorem zero_measures (negative : Bool) : (zero negative).Measures negative 0 :=
  ⟨0, -1074, rfl, ⟨by decide, by decide, by decide, .inr rfl⟩, by simp⟩

/-- The exponent a fraction is rounded at. -/
def unit (num den : Nat) : Int := max minExponent (floorLog2 num den - 52)

theorem unit_le {num den : Nat} {k : Int} (some : num ≠ 0) (positive : 0 < den)
    (high : (num : ℚ) / den < 2 ^ (k + 53)) (lowest : -1074 ≤ k) : unit num den ≤ k := by
  have := floorLog2_lt some positive high
  unfold unit minExponent
  omega

theorem units_lt {num den : Nat} (some : num ≠ 0) (positive : 0 < den) :
    (num : ℚ) / den / 2 ^ unit num den < 2 ^ (53 : Int) := by
  rw [div_lt_iff₀ (by positivity), ← zpow_add₀ two_ne_zero]
  exact (floorLog2_spec some positive).2.trans_le
    (zpow_le_zpow_right₀ one_le_two (by unfold unit; omega))

theorem le_units {num den : Nat} (some : num ≠ 0) (positive : 0 < den)
    (above : unit num den ≠ -1074) : (2 : ℚ) ^ (52 : Int) ≤ num / den / 2 ^ unit num den := by
  rw [le_div_iff₀ (by positivity), ← zpow_add₀ two_ne_zero]
  exact (zpow_le_zpow_right₀ one_le_two (by unfold unit minExponent at *; omega)).trans
    (floorLog2_spec some positive).1

theorem nearest_units (num : Nat) {den : Nat} (positive : 0 < den) (exponent : Int) :
    Nearest (num / den / 2 ^ exponent)
      (roundHalfEven (num * pow2 (-exponent).toNat) (den * pow2 exponent.toNat)) := by
  have near := nearest_roundHalfEven (num * pow2 (-exponent).toNat)
    (Nat.mul_pos positive (Nat.pow_pos (n := exponent.toNat) two_pos))
  have power := zpow_eq_ratio 2 exponent
  have same : ((num * pow2 (-exponent).toNat : Nat) : ℚ) / (den * pow2 exponent.toNat : Nat) =
      num / den / 2 ^ exponent := by
    push_cast at power
    rw [power, pow2_eq, pow2_eq]
    push_cast
    field_simp
  rwa [← same]

def carried (negative : Bool) (units : Nat) (exponent : Int) : Binary64 :=
  let (mantissa, exponent) :=
    if units = pow2 mantissaBits then (pow2 (mantissaBits - 1), exponent + 1) else (units, exponent)
  if maxExponent < exponent then infinite negative else finite negative mantissa exponent

theorem carried_full (negative : Bool) {exponent : Int} (fits : exponent + 1 ≤ 971) :
    carried negative (2 ^ 53) exponent = finite negative (2 ^ 52) (exponent + 1) :=
  if_neg (show ¬ 971 < exponent + 1 by omega)

theorem carried_short (negative : Bool) {units : Nat} {exponent : Int} (short : units < 2 ^ 53)
    (fits : exponent ≤ 971) :
    carried negative units exponent = finite negative units exponent := by
  have other : units ≠ pow2 mantissaBits := short.ne
  unfold carried
  rw [if_neg other]
  exact if_neg (show ¬ 971 < exponent by omega)

theorem ofRatio_eq {num den n : Nat} (negative : Bool) (some : num ≠ 0) (positive : 0 < den)
    (near : Nearest (num / den / 2 ^ unit num den) n) :
    ofRatio negative num den = carried negative n (unit num den) := by
  rw [← (nearest_units num positive _).unique near, ofRatio, if_neg some]
  rfl

theorem ofRatio_of_nearest {num den n : Nat} (negative : Bool) (some : num ≠ 0)
    (positive : 0 < den) (near : Nearest (num / den / 2 ^ unit num den) n)
    (small : (n : ℚ) * 2 ^ unit num den < 2 ^ (1024 : Int)) :
    (ofRatio negative num den).Measures negative (n * 2 ^ unit num den) := by
  have most : n ≤ 2 ^ 53 := near.le (by exact_mod_cast (units_lt some positive).le)
  have least : unit num den ≠ -1074 → 2 ^ 52 ≤ n := fun above =>
    near.ge (by exact_mod_cast le_units some positive above)
  have lowest : -1074 ≤ unit num den := by unfold unit minExponent; omega
  have sized {k : Int} (enough : (2 : ℚ) ^ k ≤ n) : k + unit num den < 1024 := by
    rw [← zpow_lt_zpow_iff_right₀ (one_lt_two (α := ℚ)), zpow_add₀ two_ne_zero]
    exact (mul_le_mul_of_nonneg_right enough (by positivity)).trans_lt small
  rw [ofRatio_eq negative some positive near]
  rcases most.eq_or_lt with rfl | short
  · have fits := sized (k := 53) (by norm_num)
    refine ⟨2 ^ 52, unit num den + 1, carried_full negative (by omega),
      ⟨by decide, by omega, by omega, .inl le_rfl⟩, ?_⟩
    rw [zpow_add_one₀ two_ne_zero]
    push_cast
    linarith
  · have highest : unit num den ≤ 971 := by
      by_cases low : unit num den = -1074
      · omega
      · have fits := sized (k := 52) (by exact_mod_cast least low)
        omega
    exact ⟨n, unit num den, carried_short negative short highest,
      ⟨short, lowest, highest, by tauto⟩, rfl⟩

/-- The error of rounding is at most half a unit. -/
theorem ofRatio_near {num den : Nat} {k : Int} (negative : Bool) (positive : 0 < den)
    (high : (num : ℚ) / den < 2 ^ (k + 53)) (lowest : -1074 ≤ k) (highest : k ≤ 970) :
    ∃ q, (ofRatio negative num den).Measures negative q ∧ |q - num / den| ≤ 2 ^ k / 2 := by
  by_cases none : num = 0
  · subst none
    refine ⟨0, zero_measures negative, ?_⟩
    rw [Nat.cast_zero, zero_div, sub_zero, abs_zero]
    positivity
  · have short := unit_le none positive high lowest
    have near := nearest_units num positive (unit num den)
    generalize roundHalfEven _ _ = n at near
    have scale : (0 : ℚ) < 2 ^ unit num den := by positivity
    have most : (n : ℚ) ≤ 2 ^ (53 : Int) := by
      exact_mod_cast near.le (by exact_mod_cast (units_lt none positive).le)
    have small : (n : ℚ) * 2 ^ unit num den < 2 ^ (1024 : Int) := by
      calc (n : ℚ) * 2 ^ unit num den ≤ 2 ^ (53 : Int) * 2 ^ unit num den := by gcongr
        _ = 2 ^ (53 + unit num den) := (zpow_add₀ two_ne_zero ..).symm
        _ < 2 ^ (1024 : Int) := zpow_lt_zpow_right₀ one_lt_two (by omega)
    refine ⟨_, ofRatio_of_nearest negative none positive near small, ?_⟩
    calc |(n : ℚ) * 2 ^ unit num den - num / den|
        = |((n : ℚ) - num / den / 2 ^ unit num den) * 2 ^ unit num den| := by
          rw [sub_mul, div_mul_cancel₀ _ scale.ne']
      _ = |(n : ℚ) - num / den / 2 ^ unit num den| * 2 ^ unit num den := by
          rw [abs_mul, abs_of_pos scale]
      _ ≤ 1 / 2 * 2 ^ unit num den := by gcongr; exact near.error
      _ ≤ 2 ^ k / 2 := by
          have := zpow_le_zpow_right₀ (one_le_two (α := ℚ)) short
          linarith

theorem ofRatio_exact {num den n : Nat} (negative : Bool) (some : num ≠ 0) (positive : 0 < den)
    (exact : (num : ℚ) / den = n * 2 ^ unit num den)
    (small : (num : ℚ) / den < 2 ^ (1024 : Int)) :
    (ofRatio negative num den).Measures negative (num / den) := by
  have near : Nearest (num / den / 2 ^ unit num den) n := by
    rw [exact, mul_div_cancel_right₀ _ (by positivity)]
    exact nearest_self n
  rw [exact] at small ⊢
  exact ofRatio_of_nearest negative some positive near small

theorem ofNat_measures {n : Nat} (bits : n < 2 ^ 53) : (ofNat n).Measures false n := by
  by_cases none : n = 0
  · subst none
    exact zero_measures false
  · have short : ((n : Nat) : ℚ) / (1 : Nat) < 2 ^ ((0 : Int) + 53) := by
      rw [Nat.cast_one, div_one]
      exact_mod_cast bits
    obtain ⟨shift, same⟩ := Int.eq_ofNat_of_zero_le
      (Int.neg_nonneg_of_nonpos (unit_le none one_pos short (by decide)))
    have whole : (n : ℚ) / (1 : Nat) = (n * 2 ^ shift : Nat) * 2 ^ unit n 1 := by
      rw [Int.eq_neg_comm.mp same.symm, zpow_neg, zpow_natCast]
      push_cast
      field_simp
    have small : ((n : Nat) : ℚ) / (1 : Nat) < 2 ^ (1024 : Int) :=
      short.trans_le (zpow_le_zpow_right₀ one_le_two (by decide))
    simpa [ofNat] using ofRatio_exact false none one_pos whole small

section Arithmetic

variable {x y : Binary64} {p q : ℚ} {s t : Bool}

theorem Measures.add (first : x.Measures s p) (second : y.Measures t q) :
    ∃ num den : Nat, 0 < den ∧ (num : ℚ) / den = p + q ∧
      x.add y = ofRatio false num den := by
  obtain ⟨m, e, rfl, -, rfl⟩ := first
  obtain ⟨n, f, rfl, -, rfl⟩ := second
  have left : (0 : ℚ) < (ratio m e).2 := by exact_mod_cast ratio_pos m e
  have right : (0 : ℚ) < (ratio n f).2 := by exact_mod_cast ratio_pos n f
  refine ⟨(ratio m e).1 * (ratio n f).2 + (ratio n f).1 * (ratio m e).2,
    (ratio m e).2 * (ratio n f).2, Nat.mul_pos (ratio_pos m e) (ratio_pos n f), ?_, rfl⟩
  rw [← ratio_eq, ← ratio_eq, div_add_div _ _ left.ne' right.ne', Nat.cast_add, Nat.cast_mul,
    Nat.cast_mul, Nat.cast_mul, mul_comm ((ratio n f).1 : ℚ)]

theorem Measures.div (first : x.Measures s p) (second : y.Measures t q) (some : q ≠ 0) :
    ∃ num den : Nat, 0 < den ∧ (num : ℚ) / den = p / q ∧
      x.div y = ofRatio false num den := by
  obtain ⟨m, e, rfl, -, rfl⟩ := first
  obtain ⟨n, f, rfl, -, rfl⟩ := second
  have divisor : 0 < (ratio n f).1 := by
    rw [Nat.pos_iff_ne_zero]
    intro zero
    rw [← ratio_eq, zero, Nat.cast_zero, zero_div] at some
    exact some rfl
  refine ⟨(ratio m e).1 * (ratio n f).2, (ratio m e).2 * (ratio n f).1,
    Nat.mul_pos (ratio_pos m e) divisor, ?_, rfl⟩
  rw [← ratio_eq, ← ratio_eq, div_div_div_eq, Nat.cast_mul, Nat.cast_mul]

end Arithmetic

/-- How far below a double numbers are rounded to it, in units: below a power of two the next double
is nearer. -/
def reachBelow (mantissa : Nat) (exponent : Int) : ℚ :=
  if mantissa = 2 ^ 52 ∧ -1074 < exponent then 1 / 4 else 1 / 2

theorem reachBelow_le (mantissa : Nat) (exponent : Int) :
    reachBelow mantissa exponent ≤ 1 / 2 := by
  unfold reachBelow
  split <;> norm_num

/-- A number between the halves to both neighbours of a double; the halves belong to the double
whose last bit is zero. -/
structure Surrounds (mantissa : Nat) (exponent : Int) (q : ℚ) : Prop where
  low : (mantissa - reachBelow mantissa exponent) * 2 ^ exponent ≤ q
  high : q ≤ (mantissa + 1 / 2) * 2 ^ exponent
  inside : mantissa % 2 = 1 →
    (mantissa - reachBelow mantissa exponent) * 2 ^ exponent < q ∧
      q < (mantissa + 1 / 2) * 2 ^ exponent

section Surrounds

variable {mantissa num den : Nat} {exponent : Int}

theorem Surrounds.pos {q : ℚ} (surrounds : Surrounds mantissa exponent q)
    (some : mantissa ≠ 0) :
    0 < q := by
  have least : (1 : ℚ) ≤ mantissa := by exact_mod_cast Nat.one_le_iff_ne_zero.mpr some
  have reach := reachBelow_le mantissa exponent
  have : 0 < (mantissa - reachBelow mantissa exponent) * 2 ^ exponent :=
    mul_pos (by linarith) (by positivity)
  exact this.trans_le surrounds.low

theorem Surrounds.lt_scale {q : ℚ} (canonical : Canonical mantissa exponent)
    (surrounds : Surrounds mantissa exponent q) : q < 2 ^ (53 : Int) * 2 ^ exponent := by
  have bits : (mantissa : ℚ) + 1 ≤ 2 ^ (53 : Int) := by exact_mod_cast canonical.bits
  calc q ≤ (mantissa + 1 / 2) * 2 ^ exponent := surrounds.high
    _ < 2 ^ (53 : Int) * 2 ^ exponent := by gcongr; linarith

theorem le_unit {k : Int} (some : num ≠ 0) (positive : 0 < den)
    (low : (2 : ℚ) ^ (k + 52) ≤ num / den) : k ≤ unit num den := by
  have above := (zpow_lt_zpow_iff_right₀ one_lt_two).mp
    (low.trans_lt (floorLog2_spec some positive).2)
  unfold unit
  omega

/-- From a power of two on upwards, and everywhere else, numbers are rounded at the exponent of the
double. -/
theorem Surrounds.unit_eq (canonical : Canonical mantissa exponent) (some : num ≠ 0)
    (positive : 0 < den) (surrounds : Surrounds mantissa exponent (num / den))
    (above : mantissa = 2 ^ 52 → -1074 < exponent →
      (mantissa : ℚ) * 2 ^ exponent ≤ num / den) :
    unit num den = exponent := by
  have scale : (0 : ℚ) < 2 ^ exponent := by positivity
  apply Int.le_antisymm
  · refine unit_le some positive ?_ canonical.lowest
    rw [Int.add_comm, zpow_add₀ two_ne_zero]
    exact surrounds.lt_scale canonical
  · by_cases lowest : exponent = -1074
    · rw [lowest]
      unfold unit minExponent
      omega
    · refine le_unit some positive ?_
      have full := canonical.full.resolve_right lowest
      have higher : -1074 < exponent := by have := canonical.lowest; omega
      rw [Int.add_comm, zpow_add₀ two_ne_zero]
      by_cases power : mantissa = 2 ^ 52
      · refine le_trans ?_ (above power higher)
        rw [power]
        norm_num
      · have more : (2 : ℚ) ^ (52 : Int) + 1 ≤ mantissa := by
          exact_mod_cast (by omega : 2 ^ 52 + 1 ≤ mantissa)
        refine le_trans (mul_le_mul_of_nonneg_right ?_ scale.le) surrounds.low
        have reach := reachBelow_le mantissa exponent
        linarith

theorem Surrounds.nearest {q : ℚ} (surrounds : Surrounds mantissa exponent q) :
    Nearest (q / 2 ^ exponent) mantissa := by
  have scale : (0 : ℚ) < 2 ^ exponent := by positivity
  have low := (le_div_iff₀ scale).mpr surrounds.low
  have high := (div_le_iff₀ scale).mpr surrounds.high
  have reach := reachBelow_le mantissa exponent
  rcases Nat.mod_two_eq_zero_or_one mantissa with even | odd
  · have close : |(mantissa : ℚ) - q / 2 ^ exponent| ≤ 1 / 2 :=
      abs_le.mpr ⟨by linarith, by linarith⟩
    exact close.lt_or_eq.imp id fun tie => ⟨tie, even⟩
  · obtain ⟨above, below⟩ := surrounds.inside odd
    have low := (lt_div_iff₀ scale).mpr above
    have high := (div_lt_iff₀ scale).mpr below
    exact .of_error (abs_lt.mpr ⟨by linarith, by linarith⟩)

/-- Just below a power of two numbers are rounded in smaller units. -/
theorem Surrounds.unit_eq_of_lt (some : num ≠ 0) (positive : 0 < den) (higher : -1074 < exponent)
    (surrounds : Surrounds (2 ^ 52) exponent (num / den))
    (below : (num : ℚ) / den < 2 ^ 52 * 2 ^ exponent) : unit num den = exponent - 1 := by
  have half : (2 : ℚ) ^ (exponent - 1) = 2 ^ exponent / 2 := by
    rw [zpow_sub_one₀ two_ne_zero]; rfl
  apply Int.le_antisymm
  · refine unit_le some positive ?_ (by omega)
    rwa [show exponent - 1 + 53 = (52 : Nat) + exponent by omega, zpow_add₀ two_ne_zero,
      zpow_natCast]
  · refine le_unit some positive ?_
    rw [Int.add_comm, zpow_add₀ two_ne_zero, half]
    refine le_trans ?_ surrounds.low
    have scale : (0 : ℚ) < 2 ^ exponent := by positivity
    have reach := reachBelow_le (2 ^ 52) exponent
    have : (2 : ℚ) ^ 52 / 2 * 2 ^ exponent ≤
        ((2 ^ 52 : Nat) - reachBelow (2 ^ 52) exponent) * 2 ^ exponent := by
      gcongr
      push_cast
      linarith
    calc (2 : ℚ) ^ (52 : Int) * (2 ^ exponent / 2) = 2 ^ 52 / 2 * 2 ^ exponent := by
          norm_num
          linarith
      _ ≤ _ := this

theorem Surrounds.nearest_of_lt {q : ℚ} (higher : -1074 < exponent)
    (surrounds : Surrounds (2 ^ 52) exponent q) (below : q < 2 ^ 52 * 2 ^ exponent) :
    Nearest (q / 2 ^ (exponent - 1)) (2 ^ 53) := by
  have scale : (0 : ℚ) < 2 ^ exponent := by positivity
  have low := (le_div_iff₀ scale).mpr surrounds.low
  have high := (div_lt_iff₀ scale).mpr below
  rw [reachBelow, if_pos ⟨rfl, higher⟩] at low
  have twice : q / 2 ^ (exponent - 1) = 2 * (q / 2 ^ exponent) := by
    rw [zpow_sub_one₀ two_ne_zero]
    field_simp
  rw [twice]
  have close : |((2 ^ 53 : Nat) : ℚ) - 2 * (q / 2 ^ exponent)| ≤ 1 / 2 := by
    push_cast at *
    exact abs_le.mpr ⟨by linarith, by linarith⟩
  exact close.lt_or_eq.imp id fun tie => ⟨tie, rfl⟩

/-- A number that is nearest to a double is rounded to it. -/
theorem ofRatio_of_surrounds (negative : Bool) (canonical : Canonical mantissa exponent)
    (nonzero : mantissa ≠ 0) (positive : 0 < den)
    (surrounds : Surrounds mantissa exponent (num / den)) :
    ofRatio negative num den = finite negative mantissa exponent := by
  have some : num ≠ 0 := by
    rintro rfl
    simpa using surrounds.pos nonzero
  have found {n : Nat} (near : Nearest (num / den / 2 ^ unit num den) n)
      (same : (n : ℚ) * 2 ^ unit num den = mantissa * 2 ^ exponent) :
      ofRatio negative num den = finite negative mantissa exponent := by
    obtain ⟨m, e, made, form, value⟩ :=
      ofRatio_of_nearest negative some positive near (same ▸ canonical.lt)
    obtain ⟨rfl, rfl⟩ := form.unique canonical (value.trans same)
    exact made
  by_cases above : mantissa = 2 ^ 52 → -1074 < exponent →
    (mantissa : ℚ) * 2 ^ exponent ≤ num / den
  · have same := surrounds.unit_eq canonical some positive above
    exact found (same ▸ surrounds.nearest) (by rw [same])
  · obtain ⟨rfl, higher, below⟩ : mantissa = 2 ^ 52 ∧ -1074 < exponent ∧
        ¬ (mantissa : ℚ) * 2 ^ exponent ≤ num / den := by tauto
    have below : (num : ℚ) / den < 2 ^ 52 * 2 ^ exponent := by
      push_cast at below
      exact lt_of_not_ge below
    have same := surrounds.unit_eq_of_lt some positive higher below
    refine found (same ▸ surrounds.nearest_of_lt higher below) ?_
    rw [same, zpow_sub_one₀ two_ne_zero]
    push_cast
    field_simp
    norm_num

end Surrounds

end Binary64

end InstanceBroker
