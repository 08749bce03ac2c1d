import InstanceBroker.Json.Error

namespace InstanceBroker.Json

inductive Value
  | null
  | boolean (value : Bool)
  | natural (value : Nat)
  | double (value : Binary64)
  | string (value : String)
  | list (items : List Value)
  | object (members : List (String × Value))
deriving Repr

def unicodeEscape (c : Char) : List Char :=
  let digits := Nat.toDigits 16 c.toNat
  ['\\', 'u'] ++ List.replicate (4 - digits.length) '0' ++ digits

def escapeChar (c : Char) : List Char :=
  if c = '"' then ['\\', '"']
  else if c = '\\' then ['\\', '\\']
  else if c = '\x08' then ['\\', 'b']
  else if c = '\t' then ['\\', 't']
  else if c = '\n' then ['\\', 'n']
  else if c = '\x0c' then ['\\', 'f']
  else if c = '\r' then ['\\', 'r']
  else if c.toNat < 0x20 then unicodeEscape c
  else [c]

def stringChars (s : String) : List Char :=
  '"' :: s.toList.flatMap escapeChar ++ ['"']

namespace Value

mutual

def chars : Value → List Char
  | null => ['n', 'u', 'l', 'l']
  | boolean true => ['t', 'r', 'u', 'e']
  | boolean false => ['f', 'a', 'l', 's', 'e']
  | natural value => Nat.toDigits 10 value
  | double value => (numberLayout.text value).toList
  | string value => stringChars value
  | list [] => ['[', ']']
  | list (item :: rest) => '[' :: item.chars ++ itemsChars rest
  | object [] => ['{', '}']
  | object ((key, value) :: rest) =>
    '{' :: stringChars key ++ ':' :: value.chars ++ membersChars rest

def itemsChars : List Value → List Char
  | [] => [']']
  | item :: rest => ',' :: item.chars ++ itemsChars rest

def membersChars : List (String × Value) → List Char
  | [] => ['}']
  | (key, value) :: rest => ',' :: stringChars key ++ ':' :: value.chars ++ membersChars rest

end

def text (value : Value) : String := String.ofList value.chars

end Value

end InstanceBroker.Json
