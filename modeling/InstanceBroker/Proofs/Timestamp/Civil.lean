import Mathlib.Tactic.IntervalCases
import InstanceBroker.Timestamp.Civil

namespace InstanceBroker.Civil

def yearOfEra (dayOfEra : Int) : Int :=
  (dayOfEra - dayOfEra / 1460 + dayOfEra / 36524 - dayOfEra / 146096) / 365

def daysBeforeYear (year : Int) : Int := year * 365 + year / 4 - year / 100

def EndsLeap (year : Int) : Prop :=
  (year + 1) % 4 = 0 ∧ ((year + 1) % 100 ≠ 0 ∨ (year + 1) % 400 = 0)

/-- A day of an era is the day with that number of that year. -/
structure IsDayOf (dayOfEra year day : Int) : Prop where
  year_range : 0 ≤ year ∧ year < 400
  sum : dayOfEra = daysBeforeYear year + day
  day_range : 0 ≤ day ∧ day ≤ 365
  leap : day = 365 → EndsLeap year

theorem yearOfEra_eq {century cycle year day : Int} (centuries : 0 ≤ century ∧ century < 4)
    (cycles : 0 ≤ cycle) (years : 0 ≤ year ∧ year < 4)
    (days : 0 ≤ day ∧ (day < 365 ∨ day = 365 ∧ year = 3))
    (short : 1461 * cycle + (365 * year + day) < 36524) :
    yearOfEra (36524 * century + (1461 * cycle + (365 * year + day))) =
      100 * century + 4 * cycle + year := by
  have whole : (36524 * century + (1461 * cycle + (365 * year + day))) / 36524 = century := by
    omega
  have early : (36524 * century + (1461 * cycle + (365 * year + day))) / 146096 = 0 := by omega
  have leaps : (36524 * century + (1461 * cycle + (365 * year + day))) / 1460 =
      25 * century + cycle +
        (if 1460 ≤ 24 * century + cycle + (365 * year + day) then 1 else 0) := by
    split <;> omega
  rw [yearOfEra, whole, early, leaps]
  split <;> omega

/-- Any day of an era but the last is in a century, there in a cycle of four years, and there in a
year, the last of which has one day more. -/
theorem exists_cycle {dayOfEra : Int} (lower : 0 ≤ dayOfEra) (upper : dayOfEra < 146096) :
    ∃ century cycle year day : Int,
      dayOfEra = 36524 * century + (1461 * cycle + (365 * year + day)) ∧
        (0 ≤ century ∧ century < 4) ∧ (0 ≤ cycle ∧ cycle < 25) ∧
        (0 ≤ year ∧ year < 4) ∧
        (0 ≤ day ∧ (day < 365 ∨ day = 365 ∧ year = 3)) ∧
        1461 * cycle + (365 * year + day) < 36524 := by
  obtain ⟨century, rest, sum, centuries, short⟩ : ∃ century rest : Int,
      dayOfEra = 36524 * century + rest ∧ (0 ≤ century ∧ century < 4) ∧ 0 ≤ rest ∧
        rest < 36524 :=
    ⟨dayOfEra / 36524, dayOfEra % 36524, by omega, by omega, by omega⟩
  obtain ⟨cycle, left, rfl, cycles, bound⟩ : ∃ cycle left : Int,
      rest = 1461 * cycle + left ∧ (0 ≤ cycle ∧ cycle < 25) ∧ 0 ≤ left ∧ left < 1461 :=
    ⟨rest / 1461, rest % 1461, by omega, by omega, by omega⟩
  by_cases last : left = 1460
  · exact ⟨century, cycle, 3, 365, by omega, centuries, cycles, by decide, by decide, by omega⟩
  · exact ⟨century, cycle, left / 365, left % 365, by omega, centuries, cycles, by omega,
      by omega, by omega⟩

theorem isDayOf_yearOfEra {dayOfEra : Int} (lower : 0 ≤ dayOfEra) (upper : dayOfEra < 146097) :
    IsDayOf dayOfEra (yearOfEra dayOfEra) (dayOfEra - daysBeforeYear (yearOfEra dayOfEra)) := by
  by_cases last : dayOfEra = 146096
  · subst last
    exact ⟨by decide, by decide, by decide, fun _ => ⟨by decide, by decide⟩⟩
  · obtain ⟨century, cycle, year, day, rfl, centuries, cycles, years, days, short⟩ :=
      exists_cycle lower (by omega)
    rw [yearOfEra_eq centuries cycles.1 years days short]
    have fours : (100 * century + 4 * cycle + year) / 4 = 25 * century + cycle := by omega
    have hundreds : (100 * century + 4 * cycle + year) / 100 = century := by omega
    have before : daysBeforeYear (100 * century + 4 * cycle + year) =
        36524 * century + (1461 * cycle + 365 * year) := by
      rw [daysBeforeYear, fours, hundreds]
      omega
    rw [before]
    refine ⟨by omega, by omega, by omega, fun full => ?_⟩
    have inner : cycle ≠ 24 := by omega
    exact ⟨by omega, .inl (by omega)⟩

theorem exists_isDayOf (days : Int) : ∃ era dayOfEra year day : Int,
    days + epochOffset = era * daysPerEra + dayOfEra ∧ IsDayOf dayOfEra year day ∧
      Date.ofDays days =
        let m := (5 * day + 2) / 153
        let month := (m + 2) % 12 + 1
        { year := year + era * 400 + if month ≤ 2 then 1 else 0
          month := month.toNat
          day := (day - daysBeforeMonth m + 1).toNat } := by
  have range : 0 ≤ (days + epochOffset) % daysPerEra ∧
      (days + epochOffset) % daysPerEra < 146097 := by
    unfold daysPerEra
    omega
  have order := isDayOf_yearOfEra range.1 range.2
  refine ⟨(days + epochOffset) / daysPerEra, _, _, _, ?_, order, ?_⟩
  · rw [Int.mul_comm]
    exact (Int.mul_ediv_add_emod _ _).symm
  · unfold Date.ofDays daysBeforeYear yearOfEra
    simp only [Int.mul_comm]

theorem toDays_ofDays (days : Int) : (Date.ofDays days).toDays = days := by
  obtain ⟨era, dayOfEra, year, day, sum, order, made⟩ := exists_isDayOf days
  obtain ⟨years, total, bound, -⟩ := order
  unfold daysBeforeYear at total
  unfold daysPerEra at sum
  rw [made]
  unfold Date.toDays daysPerEra daysBeforeMonth
  dsimp only
  generalize place : (5 * day + 2) / 153 = m
  have months : 0 ≤ m ∧ m ≤ 11 := by omega
  obtain ⟨least, most⟩ := months
  interval_cases m <;> simp <;> omega

theorem isValid_ofDays (days : Int) : (Date.ofDays days).isValid = true := by
  obtain ⟨era, dayOfEra, year, day, sum, order, made⟩ := exists_isDayOf days
  obtain ⟨years, total, bound, leap⟩ := order
  rw [made]
  unfold Date.isValid daysBeforeMonth daysInMonth
  unfold EndsLeap at leap
  dsimp only
  generalize place : (5 * day + 2) / 153 = m
  have months : 0 ≤ m ∧ m ≤ 11 := by omega
  obtain ⟨least, most⟩ := months
  interval_cases m <;> simp [isLeapYear] <;> omega

end InstanceBroker.Civil
