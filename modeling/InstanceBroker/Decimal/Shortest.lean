import InstanceBroker.Decimal.Binary64

namespace InstanceBroker.Decimal

structure Scientific where
  digits : Nat
  exponent : Int
deriving DecidableEq, Repr

/-- The numbers that round to a double, as fractions over one denominator. -/
structure Interval where
  low : Nat
  value : Nat
  high : Nat
  den : Nat
  closed : Bool
deriving Repr

/-- Half way to each neighbour; below a power of two the neighbour is nearer. -/
def Interval.around (mantissa : Nat) (exponent : Int) : Interval :=
  let shift := pow2 exponent.toNat
  let below := if mantissa = pow2 (Binary64.mantissaBits - 1) ∧ Binary64.minExponent < exponent
    then 1 else 2
  { low := (4 * mantissa - below) * shift
    value := 4 * mantissa * shift
    high := (4 * mantissa + 2) * shift
    den := 4 * pow2 (-exponent).toNat
    closed := mantissa % 2 = 0 }

def Interval.contains (interval : Interval) (digits : Nat) (exponent : Int) : Bool :=
  let point := digits * pow10 exponent.toNat * interval.den
  let scale := pow10 (-exponent).toNat
  if interval.closed then interval.low * scale ≤ point && point ≤ interval.high * scale
  else interval.low * scale < point && point < interval.high * scale

/-- The neighbours of the value on the grid of multiples of `10 ^ exponent`: the nearer one that
lies in the interval. -/
def Interval.onGrid? (interval : Interval) (exponent : Int) : Option Nat :=
  let num := interval.value * pow10 (-exponent).toNat
  let den := interval.den * pow10 exponent.toNat
  let below := num / den
  let nearest := roundHalfEven num den
  let other := if nearest = below then below + 1 else below
  if interval.contains nearest exponent then some nearest
  else if interval.contains other exponent then some other
  else none

def decimalMagnitude (num den : Nat) : Int :=
  let bits := Binary64.floorLog2 num den
  let guess := (bits * 30103).fdiv 100000
  let reaches (k : Int) : Bool := den * pow10 k.toNat ≤ num * pow10 (-k).toNat
  if reaches (guess + 1) then guess + 1 else if reaches guess then guess else guess - 1

def Interval.search (interval : Interval) (magnitude : Int) : Nat → Nat → Scientific
  | 0, _ => ⟨0, 0⟩
  | left + 1, digits =>
    let exponent := magnitude + 1 - digits
    match interval.onGrid? exponent with
    | some found => ⟨found, exponent⟩
    | none => interval.search magnitude left (digits + 1)

def Scientific.trimmed : Nat → Scientific → Scientific
  | 0, number => number
  | steps + 1, number =>
    if number.digits % 10 = 0 ∧ number.digits ≠ 0 then
      trimmed steps ⟨number.digits / 10, number.exponent + 1⟩
    else number

/-- The shortest decimal of a positive double; seventeen digits always suffice. -/
def shortest (mantissa : Nat) (exponent : Int) : Scientific :=
  let interval := Interval.around mantissa exponent
  let magnitude := decimalMagnitude interval.value interval.den
  (interval.search magnitude 17 1).trimmed 400

end InstanceBroker.Decimal
