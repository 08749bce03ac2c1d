import InstanceBroker.Duration
import InstanceBroker.Decimal.Binary64

namespace InstanceBroker.Duration

inductive SecondsError
  | negative | unrepresentable
deriving DecidableEq, Repr

def SecondsError.message : SecondsError → String
  | negative => "cannot convert float seconds to Duration: value is negative"
  | unrepresentable =>
    "cannot convert float seconds to Duration: value is either too big or NaN"

/-- The whole seconds and the fraction are turned into doubles apart and then added. -/
def toSeconds (d : Duration) : Binary64 :=
  (Binary64.ofNat d.wholeSeconds).add
    ((Binary64.ofNat d.subsecNanos).div (Binary64.ofNat nanosPerSecond))

def ofSeconds? : Binary64 → Except SecondsError Duration
  | .finite negative mantissa exponent =>
    if negative ∧ mantissa ≠ 0 then .error .negative
    else
      let (num, den) := Binary64.ratio mantissa exponent
      if den * pow2 64 ≤ num then .error .unrepresentable
      else .ok ⟨roundHalfEven (num * nanosPerSecond) den⟩
  | .infinite true => .error .negative
  | .infinite false | .nan => .error .unrepresentable

end InstanceBroker.Duration
