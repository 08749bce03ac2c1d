namespace InstanceBroker.Text

def digit? (c : Char) : Option Nat :=
  if '0' ≤ c ∧ c ≤ '9' then some (c.toNat - '0'.toNat)
  else if 'a' ≤ c ∧ c ≤ 'f' then some (c.toNat - 'a'.toNat + 10)
  else if 'A' ≤ c ∧ c ≤ 'F' then some (c.toNat - 'A'.toNat + 10)
  else none

def number? (base : Nat) (digits : List Char) : Option Nat :=
  digits.foldlM (fun value c => (digit? c).bind fun digit =>
    if digit < base then some (value * base + digit) else none) 0

def hexadecimal? : List Char → Option Nat := number? 16

end InstanceBroker.Text
