namespace InstanceBroker

def pow2 (exponent : Nat) : Nat := Nat.pow 2 exponent

def pow10 (exponent : Nat) : Nat := Nat.pow 10 exponent

def roundHalfEven (num den : Nat) : Nat :=
  let quotient := num / den
  let rest := 2 * (num % den)
  if rest < den ∨ (rest = den ∧ quotient % 2 = 0) then quotient else quotient + 1

/-- A finite number is `mantissa * 2 ^ exponent` under its sign. -/
inductive Binary64
  | finite (negative : Bool) (mantissa : Nat) (exponent : Int)
  | infinite (negative : Bool)
  | nan
deriving DecidableEq, Repr

namespace Binary64

def minExponent : Int := -1074
def maxExponent : Int := 971
def mantissaBits : Nat := 53

def zero (negative : Bool) : Binary64 := finite negative 0 minExponent

def floorLog2 (num den : Nat) : Int :=
  let guess : Int := (num.log2 : Int) - den.log2
  if den * pow2 guess.toNat ≤ num * pow2 (-guess).toNat then guess else guess - 1

def ofRatio (negative : Bool) (num den : Nat) : Binary64 :=
  if num = 0 then zero negative
  else
    let exponent := max minExponent (floorLog2 num den - (mantissaBits - 1 : Nat))
    let mantissa := roundHalfEven (num * pow2 (-exponent).toNat) (den * pow2 exponent.toNat)
    let (mantissa, exponent) :=
      if mantissa = pow2 mantissaBits then (pow2 (mantissaBits - 1), exponent + 1)
      else (mantissa, exponent)
    if maxExponent < exponent then infinite negative else finite negative mantissa exponent

def ofNat (n : Nat) : Binary64 := ofRatio false n 1

def ratio (mantissa : Nat) (exponent : Int) : Nat × Nat :=
  (mantissa * pow2 exponent.toNat, pow2 (-exponent).toNat)

def neg : Binary64 → Binary64
  | finite negative mantissa exponent => finite (!negative) mantissa exponent
  | infinite negative => infinite (!negative)
  | nan => nan

def isZero : Binary64 → Bool
  | finite _ 0 _ => true
  | _ => false

def mul : Binary64 → Binary64 → Binary64
  | finite _ m e, finite _ n f =>
    let (a, b) := ratio m e
    let (c, d) := ratio n f
    ofRatio false (a * c) (b * d)
  | _, _ => infinite false

def div : Binary64 → Binary64 → Binary64
  | finite _ m e, finite _ n f =>
    let (a, b) := ratio m e
    let (c, d) := ratio n f
    ofRatio false (a * d) (b * c)
  | _, _ => infinite false

def add : Binary64 → Binary64 → Binary64
  | finite _ m e, finite _ n f =>
    let (a, b) := ratio m e
    let (c, d) := ratio n f
    ofRatio false (a * d + c * b) (b * d)
  | _, _ => infinite false

def lt : Binary64 → Binary64 → Bool
  | finite _ m e, finite _ n f =>
    let (a, b) := ratio m e
    let (c, d) := ratio n f
    a * d < c * b
  | finite .., infinite _ => true
  | _, _ => false

/-- The double nearest to `significand * 10 ^ exponent`, rounded once. -/
def ofDecimal (negative : Bool) (significand : Nat) (exponent : Int) : Binary64 :=
  ofRatio negative (significand * pow10 exponent.toNat) (pow10 (-exponent).toNat)

end Binary64

end InstanceBroker
