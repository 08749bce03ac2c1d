namespace InstanceBroker.Text

def isWhite (c : Char) : Bool :=
  let n := c.toNat
  (0x09 ≤ n && n ≤ 0x0d) || n = 0x20 || n = 0x85 || n = 0xa0 || n = 0x1680 ||
    (0x2000 ≤ n && n ≤ 0x200a) || n = 0x2028 || n = 0x2029 || n = 0x202f || n = 0x205f ||
    n = 0x3000

def isDecimal (c : Char) : Bool := '0' ≤ c && c ≤ '9'

def decimalValue (c : Char) : Nat := c.toNat - '0'.toNat

def decimal (digits : List Char) : Nat :=
  digits.foldl (fun value c => value * 10 + decimalValue c) 0

def padded (width n : Nat) : List Char :=
  let digits := Nat.toDigits 10 n
  List.replicate (width - digits.length) '0' ++ digits

theorem isWhite_of_isWhitespace (c : Char) (blank : c.isWhitespace) : isWhite c := by
  simp only [Char.isWhitespace, Bool.or_eq_true, decide_eq_true_eq] at blank
  rcases blank with ((rfl | rfl) | rfl) | rfl <;> decide

end InstanceBroker.Text
