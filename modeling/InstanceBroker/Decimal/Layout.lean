import InstanceBroker.Decimal.Shortest

namespace InstanceBroker.Decimal

structure Layout where
  /-- Plain digits are used while the point stands at most this far behind the first digit. -/
  plainUpTo : Int
  /-- Plain digits are used while at most this many zeros stand between point and first digit. -/
  zerosUpTo : Int
  plus : Bool
  infinity : String
  nan : String

def zeros (n : Nat) : String := String.ofList (List.replicate n '0')

def plain (digits : List Char) (point : Int) : String :=
  let count : Int := digits.length
  if count ≤ point then String.ofList digits ++ zeros (point - count).toNat ++ ".0"
  else if 0 < point then
    String.ofList (digits.take point.toNat) ++ "." ++ String.ofList (digits.drop point.toNat)
  else "0." ++ zeros (-point).toNat ++ String.ofList digits

def Layout.exponent (layout : Layout) (exponent : Int) : String :=
  if exponent < 0 then s!"e-{exponent.natAbs}"
  else if layout.plus then s!"e+{exponent.natAbs}" else s!"e{exponent.natAbs}"

def Layout.scientific (layout : Layout) (number : Scientific) : String :=
  let digits := (toString number.digits).toList
  let point := (digits.length : Int) + number.exponent
  if -layout.zerosUpTo ≤ point ∧ point ≤ layout.plainUpTo then plain digits point
  else
    let fraction := if digits.length = 1 then "" else "." ++ String.ofList (digits.drop 1)
    String.ofList (digits.take 1) ++ fraction ++ layout.exponent (point - 1)

/-- The text of a double: the fewest digits that read back, always with a point or an exponent. -/
def Layout.text (layout : Layout) : Binary64 → String
  | .finite negative mantissa exponent =>
    let magnitude :=
      if mantissa = 0 then "0.0" else layout.scientific (shortest mantissa exponent)
    if negative then "-" ++ magnitude else magnitude
  | .infinite negative => if negative then "-" ++ layout.infinity else layout.infinity
  | .nan => layout.nan

def Layout.positional : Layout :=
  { plainUpTo := 400, zerosUpTo := 400, plus := false, infinity := "inf", nan := "NaN" }

end InstanceBroker.Decimal
