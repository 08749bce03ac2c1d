import InstanceBroker.Text.Visible

namespace InstanceBroker.Text

def hexDigits (n : Nat) : String := String.ofList (Nat.toDigits 16 n)

def quotedChar (c : Char) : String :=
  if c = '"' then "\\\"" else if c = '\\' then "\\\\"
  else if c = '\n' then "\\n" else if c = '\r' then "\\r" else if c = '\t' then "\\t"
  else if c.val = 0 then "\\0"
  else if isVisible c then c.toString
  else ("\\u".push '{' ++ hexDigits c.toNat).push '}'

def quoted (s : String) : String :=
  "\"" ++ String.join (s.toList.map quotedChar) ++ "\""

def ticked (name : String) : String := "`" ++ name ++ "`"

end InstanceBroker.Text
