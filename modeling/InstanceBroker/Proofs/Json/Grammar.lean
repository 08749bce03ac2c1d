import Mathlib.Data.List.Basic
import InstanceBroker.Json.Tree

namespace InstanceBroker.Json

def inQuotes (text : String) : String := "\"" ++ text ++ "\""

def inBraces (members : List (String × String)) : String :=
  let texts := members.map fun (key, value) => inQuotes key ++ ":" ++ value
  ("".push '{' ++ ",".intercalate texts).push '}'

def Digits (chars : List Char) : Prop := chars ≠ [] ∧ ∀ c ∈ chars, isDigit c = true

structure Exponent where
  mark : Char
  sign : Option Bool := none
  digits : List Char
  marked : mark = 'e' ∨ mark = 'E'
  some : Digits digits

def signChars : Option Bool → List Char
  | none => []
  | some false => ['+']
  | some true => ['-']

def Exponent.chars (exponent : Exponent) : List Char :=
  exponent.mark :: (signChars exponent.sign ++ exponent.digits)

/-- A number as it is spelled: only zero itself begins with a zero. -/
structure Numeral where
  negative : Bool := false
  integer : List Char
  fraction : Option (List Char) := none
  exponent : Option Exponent := none
  whole : Digits integer
  unpadded : integer.head? = some '0' → integer = ['0']
  fractional : ∀ digits ∈ fraction, Digits digits

namespace Numeral

def fractionChars (numeral : Numeral) : List Char :=
  match numeral.fraction with
  | none => []
  | some digits => '.' :: digits

def exponentChars (numeral : Numeral) : List Char := (numeral.exponent.map (·.chars)).getD []

def chars (numeral : Numeral) : List Char :=
  (if numeral.negative then ['-'] else []) ++
    (numeral.integer ++ (numeral.fractionChars ++ numeral.exponentChars))

def tail (numeral : Numeral) (place : Position) : Fraction where
  digits := numeral.fraction
  exponent := numeral.exponent.map fun exponent =>
    (exponent.sign.getD false, place, exponent.digits)

def value? (numeral : Numeral) : Option Number :=
  (numberValue numeral.negative numeral.integer (numeral.tail {}) {}).toOption

def natural? (numeral : Numeral) : Option Nat :=
  if numeral.negative || numeral.fraction.isSome || numeral.exponent.isSome then none
  else some (numeral.integer.foldl (fun value c => value * 10 + digitValue c) 0)

end Numeral

inductive FourHex : List Char → Nat → Prop
  | mk {a b c d : Char} {p q r s : Nat} (first : hexValue? a = some p)
      (second : hexValue? b = some q) (third : hexValue? c = some r)
      (fourth : hexValue? d = some s) : FourHex [a, b, c, d] (((p * 16 + q) * 16 + r) * 16 + s)

inductive Glyph : List Char → Char → Prop
  | plain {c : Char} (visible : ¬c.toNat < 0x20) (unquoted : c ≠ '"') (straight : c ≠ '\\') :
      Glyph [c] c
  | escaped {letter meant : Char} (known : simpleEscape? letter = some meant) :
      Glyph ['\\', letter] meant
  | unit {digits : List Char} {unit : Nat} (hex : FourHex digits unit)
      (whole : unit < 0xD800 ∨ 0xDFFF < unit) : Glyph ('\\' :: 'u' :: digits) (.ofNat unit)
  | pair {digits more : List Char} {high low : Nat} (hex : FourHex digits high)
      (leading : 0xD800 ≤ high ∧ high ≤ 0xDBFF) (hex' : FourHex more low)
      (trailing : 0xDC00 ≤ low ∧ low ≤ 0xDFFF) :
      Glyph ('\\' :: 'u' :: digits ++ '\\' :: 'u' :: more)
        (.ofNat ((high - 0xD800) * 0x400 + (low - 0xDC00) + 0x10000))

inductive Glyphs : List Char → List Char → Prop
  | nil : Glyphs [] []
  | cons {chars rest : List Char} {c : Char} {others : List Char} (first : Glyph chars c)
      (more : Glyphs rest others) : Glyphs (chars ++ rest) (c :: others)

structure Literal where
  chars : List Char
  value : String
  spelled : Glyphs chars value.toList

inductive Lexeme
  | openList | closeList | openObject | closeObject | comma | colon
  | null
  | boolean (value : Bool)
  | number (numeral : Numeral)
  | string (literal : Literal)

namespace Lexeme

def chars : Lexeme → List Char
  | openList => ['[']
  | closeList => [']']
  | openObject => ['{']
  | closeObject => ['}']
  | comma => [',']
  | colon => [':']
  | null => ['n', 'u', 'l', 'l']
  | boolean true => ['t', 'r', 'u', 'e']
  | boolean false => ['f', 'a', 'l', 's', 'e']
  | number numeral => numeral.chars
  | string literal => '"' :: (literal.chars ++ ['"'])

def isNumber : Lexeme → Bool
  | number _ => true
  | _ => false

def isMark : Lexeme → Bool
  | closeList | closeObject | comma => true
  | _ => false

end Lexeme

inductive Datum
  | null
  | boolean (value : Bool)
  | number (numeral : Numeral)
  | string (literal : Literal)
  | list (items : List Datum)
  | object (members : List (Literal × Datum))

namespace Datum

mutual

def lexemes : Datum → List Lexeme
  | null => [.null]
  | boolean value => [.boolean value]
  | number numeral => [.number numeral]
  | string literal => [.string literal]
  | list [] => [.openList, .closeList]
  | list (item :: rest) => .openList :: (item.lexemes ++ itemLexemes rest)
  | object [] => [.openObject, .closeObject]
  | object ((key, value) :: rest) =>
    .openObject :: .string key :: .colon :: (value.lexemes ++ memberLexemes rest)

def itemLexemes : List Datum → List Lexeme
  | [] => [.closeList]
  | item :: rest => .comma :: (item.lexemes ++ itemLexemes rest)

def memberLexemes : List (Literal × Datum) → List Lexeme
  | [] => [.closeObject]
  | (key, value) :: rest =>
    .comma :: .string key :: .colon :: (value.lexemes ++ memberLexemes rest)

end

mutual

/-- The value is within the limits to what is kept whole, with so many levels left. -/
def Fits (levels : Nat) : Datum → Prop
  | null | boolean _ | string _ => True
  | number numeral => numeral.value?.isSome = true
  | list items => 0 < levels ∧ ItemsFit (levels - 1) items
  | object members => 0 < levels ∧ MembersFit (levels - 1) members

def ItemsFit (levels : Nat) : List Datum → Prop
  | [] => True
  | item :: rest => item.Fits levels ∧ ItemsFit levels rest

def MembersFit (levels : Nat) : List (Literal × Datum) → Prop
  | [] => True
  | (_, value) :: rest => value.Fits levels ∧ MembersFit levels rest

end

end Datum

def Blank (chars : List Char) : Prop := ∀ c ∈ chars, isBlank c = true

inductive Spaced : List Lexeme → List Char → List Char → Prop
  | done {rest : List Char} : Spaced [] rest rest
  | next {blanks chars rest : List Char} {lexeme : Lexeme} {lexemes : List Lexeme}
      (blank : Blank blanks) (more : Spaced lexemes chars rest) :
      Spaced (lexeme :: lexemes) (blanks ++ (lexeme.chars ++ chars)) rest

/-- The text consists of that value and of blanks. -/
def Datum.Spells (datum : Datum) (text : String) : Prop :=
  ∃ blanks, Blank blanks ∧ Spaced datum.lexemes text.toList blanks

mutual

/-- The tree holds that value, wherever its parts stand. -/
inductive Shows : Datum → Tree → Prop
  | null {stop : Position} : Shows .null (.null stop)
  | boolean {value : Bool} {stop : Position} : Shows (.boolean value) (.boolean value stop)
  | number {numeral : Numeral} {value : Except Error Number} {stop : Position}
      (means : value.toOption = numeral.value?) : Shows (.number numeral) (.number value stop)
  | string {literal : Literal} {stop : Position} :
      Shows (.string literal) (.string (.ok literal.value) stop)
  | list {data : List Datum} {start stop : Position} {items : List Item}
      (each : ShowsItems data items) : Shows (.list data) (.list start items (.closed stop))
  | object {data : List (Literal × Datum)} {start stop : Position} {members : List Member}
      (each : ShowsMembers data members) :
      Shows (.object data) (.object start members (.closed stop))

inductive ShowsItems : List Datum → List Item → Prop
  | nil : ShowsItems [] []
  | cons {datum : Datum} {data : List Datum} {tree : Tree} {after : Position} {items : List Item}
      (first : Shows datum tree) (rest : ShowsItems data items) :
      ShowsItems (datum :: data) (.mk tree after :: items)

inductive ShowsMembers : List (Literal × Datum) → List Member → Prop
  | nil : ShowsMembers [] []
  | cons {key : Literal} {datum : Datum} {data : List (Literal × Datum)} {afterKey : Position}
      {tree : Tree} {after : Position} {members : List Member} (first : Shows datum tree)
      (rest : ShowsMembers data members) :
      ShowsMembers ((key, datum) :: data) (.mk (.ok key.value) afterKey tree after :: members)

end

end InstanceBroker.Json
