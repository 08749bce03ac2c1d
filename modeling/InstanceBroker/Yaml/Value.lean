import InstanceBroker.Decimal.Layout
import InstanceBroker.Text.Quoted
import InstanceBroker.Text.Radix

namespace InstanceBroker.Yaml

inductive Value
  | null
  | boolean (value : Bool)
  | integer (value : Int)
  | double (value : Binary64)
  | text (value : String)
deriving DecidableEq, Repr

def isNull (text : String) : Bool := ["null", "Null", "NULL", "~"].contains text

def boolean? (text : String) : Option Bool :=
  if ["true", "True", "TRUE"].contains text then some true
  else if ["false", "False", "FALSE"].contains text then some false
  else none

/-- A digit string that begins with a zero is no number. -/
def isZeroPadded (text : List Char) : Bool :=
  let digits := match text with
    | '-' :: rest | '+' :: rest => rest
    | _ => text
  match digits with
  | '0' :: c :: rest => (c :: rest).all Char.isDigit
  | _ => false

def digits? (base : Nat) (digits : List Char) : Option Nat :=
  if digits.isEmpty then none else Text.number? base digits

def based? : List Char → Option Nat
  | '0' :: 'x' :: rest => digits? 16 rest
  | '0' :: 'o' :: rest => digits? 8 rest
  | '0' :: 'b' :: rest => digits? 2 rest
  | _ => none

def natural? (text : List Char) : Option Nat :=
  let magnitude := match text with
    | '+' :: rest => rest
    | _ => text
  (based? magnitude).orElse fun () =>
    if isZeroPadded text then none else digits? 10 magnitude

def negative? (text : List Char) : Option Nat :=
  match text with
  | '-' :: magnitude =>
    (based? magnitude).orElse fun () =>
      if isZeroPadded text then none else digits? 10 magnitude
  | _ => none

/-- Integers have at most 128 bits. -/
def integer? (text : List Char) : Option Int :=
  match natural? text, negative? text with
  | some n, _ => if n < pow2 128 then some n else none
  | none, some n => if n ≤ pow2 127 then some (-n) else none
  | none, none => none

def exponent? : List Char → Option Int
  | '-' :: rest => (digits? 10 rest).map fun n => -(n : Int)
  | '+' :: rest => (digits? 10 rest).map fun n => (n : Int)
  | rest => (digits? 10 rest).map fun n => (n : Int)

/-- A number so large or so small in all its digits needs no exact computation. -/
def farExponent : Int := 400

def nearest? (isNegative : Bool) (significand : List Char) (exponent : Int) : Option Binary64 := do
  let digits := significand.dropWhile (· = '0')
  let size := exponent + digits.length
  if digits.isEmpty || size < -farExponent then return .zero isNegative
  if farExponent < size then none
  match Binary64.ofDecimal isNegative (← Text.number? 10 digits) exponent with
  | .finite isNegative mantissa exponent => some (.finite isNegative mantissa exponent)
  | _ => none

def unsignedDouble? (isNegative : Bool) (text : List Char) : Option Binary64 := do
  let whole := text.takeWhile Char.isDigit
  let rest := text.drop whole.length
  let fraction := match rest with
    | '.' :: rest => rest.takeWhile Char.isDigit
    | _ => []
  let rest := if rest.head? = some '.' then rest.drop (fraction.length + 1) else rest
  if whole.isEmpty && fraction.isEmpty then none
  let exponent ← match rest with
    | [] => some 0
    | 'e' :: rest | 'E' :: rest => exponent? rest
    | _ => none
  nearest? isNegative (whole ++ fraction) (exponent - fraction.length)

def double? (text : String) : Option Binary64 :=
  if [".inf", ".Inf", ".INF", "+.inf", "+.Inf", "+.INF"].contains text then some (.infinite false)
  else if ["-.inf", "-.Inf", "-.INF"].contains text then some (.infinite true)
  else if [".nan", ".NaN", ".NAN"].contains text then some .nan
  else match text.toList with
    | '-' :: rest => unsignedDouble? true rest
    | '+' :: rest => unsignedDouble? false rest
    | rest => unsignedDouble? false rest

def Value.ofPlain (text : String) : Value :=
  let characters := text.toList
  if text.isEmpty || isNull text then null
  else match boolean? text, integer? characters with
    | some value, _ => boolean value
    | none, some value => integer value
    | none, none =>
      match if isZeroPadded characters then none else double? text with
      | some value => double value
      | none => .text text

/-- Integers beyond 64 bits are told apart. -/
def Value.describe : Value → String
  | null => "unit value"
  | boolean value => "boolean `" ++ toString value ++ "`"
  | integer value =>
    let width :=
      if (pow2 64 : Int) ≤ value then " as u128"
      else if value < -(pow2 63 : Int) then " as i128"
      else ""
    "integer `" ++ toString value ++ "`" ++ width
  | double value => "floating point `" ++ Decimal.Layout.positional.text value ++ "`"
  | text value => "string " ++ Text.quoted value

end InstanceBroker.Yaml
