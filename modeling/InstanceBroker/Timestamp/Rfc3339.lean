import InstanceBroker.Timestamp.Civil
import InstanceBroker.Text.White

namespace InstanceBroker.Timestamp

inductive ReadError
  | tooShort | invalid | outOfRange | tooLong | impossible
deriving DecidableEq, Repr

def ReadError.message : ReadError → String
  | tooShort => "premature end of input"
  | invalid => "input contains invalid characters"
  | outOfRange => "input is out of range"
  | tooLong => "trailing input"
  | impossible => "no possible date and time matching input"

def secondsPerDay : Int := 86400

def yearChars (year : Int) : List Char :=
  if 0 ≤ year ∧ year ≤ 9999 then Text.padded 4 year.toNat
  else (if year < 0 then '-' else '+') :: Text.padded 4 year.natAbs

/-- None, three, six or nine digits, the fewest that are exact. -/
def fractionChars (nanos : Nat) : List Char :=
  if nanos = 0 then []
  else if nanos % 1000000 = 0 then '.' :: Text.padded 3 (nanos / 1000000)
  else if nanos % 1000 = 0 then '.' :: Text.padded 6 (nanos / 1000)
  else '.' :: Text.padded 9 nanos

def chars (timestamp : Timestamp) : List Char :=
  let date := Civil.Date.ofDays (timestamp.seconds / secondsPerDay)
  let time := (timestamp.seconds % secondsPerDay).toNat
  let leap := timestamp.nanos / Duration.nanosPerSecond
  yearChars date.year ++ '-' :: Text.padded 2 date.month ++ '-' :: Text.padded 2 date.day ++
    'T' :: Text.padded 2 (time / 3600) ++ ':' :: Text.padded 2 (time / 60 % 60) ++
    ':' :: Text.padded 2 (time % 60 + leap) ++
    fractionChars (timestamp.nanos % Duration.nanosPerSecond) ++ ['Z']

def text (timestamp : Timestamp) : String := String.ofList timestamp.chars

abbrev Scan (α : Type) := List Char → Except ReadError (α × List Char)

def skipWhite (s : List Char) : List Char := s.dropWhile Text.isWhite

def number (most : Nat) : Scan Nat
  | [] => .error .tooShort
  | s =>
    let digits := (s.take most).takeWhile Text.isDecimal
    if digits.isEmpty then .error .invalid
    else .ok (Text.decimal digits, s.drop digits.length)

def bounded (low high : Nat) : Scan Nat := fun s => do
  let (value, rest) ← number 2 (skipWhite s)
  if value < low ∨ high < value then throw .outOfRange
  return (value, rest)

def year : Scan Int := fun s => do
  let (value, rest) ← match skipWhite s with
    | '-' :: rest => do
      let (value, rest) ← number rest.length rest
      pure (-(value : Int), rest)
    | '+' :: rest => do
      let (value, rest) ← number rest.length rest
      pure ((value : Int), rest)
    | s => do
      let (value, rest) ← number 4 s
      pure ((value : Int), rest)
  if value < -2147483648 ∨ 2147483647 < value then throw .outOfRange
  return (value, rest)

def mark (expected : Char) : Scan Unit := fun s =>
  match skipWhite s with
  | [] => .error .tooShort
  | c :: rest => if c = expected then .ok ((), rest) else .error .invalid

/-- The nanoseconds that the digits after a point stand for; those after the ninth are ignored. -/
def fraction : Scan Nat
  | '.' :: s => do
    let (value, rest) ← number 9 s
    let count := s.length - rest.length
    return (value * Nat.pow 10 (9 - count), rest.dropWhile Text.isDecimal)
  | s => .ok (0, s)

def twoDigits : Scan (Option Nat)
  | a :: b :: rest =>
    if Text.isDecimal a ∧ Text.isDecimal b then .ok (some (Text.decimal [a, b]), rest)
    else .ok (none, rest)
  | [c] => if c.utf8Size = 1 then .error .tooShort else .ok (none, [])
  | [] => .error .tooShort

def offset : Scan Int
  | 'Z' :: rest | 'z' :: rest => .ok (0, rest)
  | [] => .error .tooShort
  | sign :: s => do
    if sign ≠ '+' ∧ sign ≠ '-' ∧ sign ≠ '−' then throw .invalid
    let (hours?, s) ← twoDigits s
    let some hours := hours? | throw .invalid
    let s := s.dropWhile fun c => c = ':' || Text.isWhite c
    let (minutes?, s) ← twoDigits s
    let some minutes := minutes? | throw .invalid
    if 60 ≤ minutes then throw .outOfRange
    let seconds : Int := hours * 3600 + minutes * 60
    return (if sign = '+' then seconds else -seconds, s)

def zone : Scan Int := fun s =>
  match s with
  | a :: b :: c :: rest =>
    if [a, b, c].map Char.toUpper = ['U', 'T', 'C'] then .ok (0, rest) else offset s
  | _ => offset s

def minYear : Int := -262143
def maxYear : Int := 262142

/-- A date and a time of day in that zone. A sixtieth second is a leap second. -/
def assemble (date : Civil.Date) (hour minute second nanos : Nat) (zone : Int) :
    Except ReadError Timestamp := do
  if date.year < minYear ∨ maxYear < date.year ∨ !date.isValid then throw .outOfRange
  if secondsPerDay ≤ zone.natAbs then throw .outOfRange
  let (second, nanos) :=
    if second = 60 then (59, nanos + Duration.nanosPerSecond) else (second, nanos)
  let local_ : Int := date.toDays * secondsPerDay + (hour * 3600 + minute * 60 + second : Nat)
  let seconds := local_ - zone
  let utcYear := (Civil.Date.ofDays (seconds / secondsPerDay)).year
  if utcYear < minYear ∨ maxYear < utcYear then throw .impossible
  return ⟨seconds, nanos⟩

def ofChars (s : List Char) : Except ReadError Timestamp := do
  let (year, s) ← year s
  let ((), s) ← mark '-' s
  let (month, s) ← bounded 1 12 s
  let ((), s) ← mark '-' s
  let (day, s) ← bounded 1 31 s
  let s ← match s with
    | [] => throw .tooShort
    | c :: rest => if c = 'T' ∨ c = 't' ∨ c = ' ' then pure rest else throw .invalid
  let (hour, s) ← bounded 0 23 s
  let ((), s) ← mark ':' s
  let (minute, s) ← bounded 0 59 s
  let ((), s) ← mark ':' s
  let (second, s) ← bounded 0 60 s
  let (nanos, s) ← fraction s
  let (zone, s) ← zone (skipWhite s)
  if !(skipWhite s).isEmpty then throw .tooLong
  assemble ⟨year, month, day⟩ hour minute second nanos zone

def ofText (text : String) : Except ReadError Timestamp := ofChars text.toList

end InstanceBroker.Timestamp
