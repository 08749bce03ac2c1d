import InstanceBroker.Timestamp

namespace InstanceBroker.Civil

structure Date where
  year : Int
  month : Nat
  day : Nat
deriving DecidableEq, Repr

def isLeapYear (year : Int) : Bool :=
  year % 4 = 0 && (year % 100 ≠ 0 || year % 400 = 0)

def daysInMonth (year : Int) (month : Nat) : Nat :=
  match month with
  | 2 => if isLeapYear year then 29 else 28
  | 4 | 6 | 9 | 11 => 30
  | _ => 31

def daysPerEra : Int := 146097

/-- From March 1 of the year 0 to 1970-01-01. -/
def epochOffset : Int := 719468

/-- Days of the March year before its month `m`, with March as 0. -/
def daysBeforeMonth (m : Int) : Int := (153 * m + 2) / 5

def Date.toDays (date : Date) : Int :=
  let shifted : Int := ((date.month : Int) + 9) % 12
  let year := if date.month ≤ 2 then date.year - 1 else date.year
  let era := year / 400
  let yearOfEra := year % 400
  let dayOfYear := daysBeforeMonth shifted + date.day - 1
  let dayOfEra := yearOfEra * 365 + yearOfEra / 4 - yearOfEra / 100 + dayOfYear
  era * daysPerEra + dayOfEra - epochOffset

def Date.ofDays (days : Int) : Date :=
  let shifted := days + epochOffset
  let era := shifted / daysPerEra
  let dayOfEra := shifted % daysPerEra
  let yearOfEra := (dayOfEra - dayOfEra / 1460 + dayOfEra / 36524 - dayOfEra / 146096) / 365
  let dayOfYear := dayOfEra - (365 * yearOfEra + yearOfEra / 4 - yearOfEra / 100)
  let m := (5 * dayOfYear + 2) / 153
  let month := (m + 2) % 12 + 1
  let year := yearOfEra + era * 400 + if month ≤ 2 then 1 else 0
  { year, month := month.toNat, day := (dayOfYear - daysBeforeMonth m + 1).toNat }

def Date.isValid (date : Date) : Bool :=
  1 ≤ date.month && date.month ≤ 12 &&
    1 ≤ date.day && date.day ≤ daysInMonth date.year date.month

end InstanceBroker.Civil
