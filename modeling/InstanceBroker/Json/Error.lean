import InstanceBroker.Decimal.Layout
import InstanceBroker.Text.Quoted

namespace InstanceBroker.Json

open Text (quoted ticked)

/-- A line, counted from one, and the bytes read on it. -/
structure Position where
  line : Nat := 1
  column : Nat := 0
deriving DecidableEq, Repr

namespace Position

def after (position : Position) (c : Char) : Position :=
  if c = '\n' then ⟨position.line + 1, 0⟩ else ⟨position.line, position.column + c.utf8Size⟩

def afterByte (position : Position) (c : Char) : Position :=
  if c = '\n' then ⟨position.line + 1, 0⟩ else ⟨position.line, position.column + 1⟩

def afterBytes (position : Position) : Nat → List Char → Position
  | 0, _ => position
  | _, [] => position
  | bytes, c :: rest =>
    if c.utf8Size ≤ bytes then afterBytes (position.after c) (bytes - c.utf8Size) rest
    else ⟨position.line, position.column + bytes⟩

end Position

/-- A number as it is written: within the range of 64 bits, or a double. -/
inductive Number
  | natural (value : UInt64)
  | negative (value : Int)
  | double (value : Binary64)
deriving DecidableEq, Repr

inductive Found
  | null
  | boolean (value : Bool)
  | number (value : Number)
  | string (value : String)
  | sequence
  | map
deriving DecidableEq, Repr

inductive Cause
  -- the text ends too early
  | eofValue | eofList | eofObject | eofString
  -- the text is not well formed
  | expectedColon | expectedListCommaOrEnd | expectedObjectCommaOrEnd
  | expectedIdent | expectedValue | invalidEscape | invalidNumber | numberOutOfRange
  | controlCharacter | keyMustBeString | loneSurrogate | unfinishedSurrogate
  | trailingComma | trailingCharacters | recursionLimit
  -- the value is not of the type that is read
  | invalidType (found : Found) (expected : String)
  | invalidValue (found : Found) (expected : String)
  | invalidLength (length : Nat) (expected : String)
  | unknownVariant (name : String) (variants : List String)
  | missingField (name : String)
  | duplicateField (name : String)
  | refused (reason : String)
deriving DecidableEq, Repr

inductive Category
  | syntaxError | data | eof
deriving DecidableEq, Repr

def Cause.category : Cause → Category
  | eofValue | eofList | eofObject | eofString => .eof
  | invalidType .. | invalidValue .. | invalidLength .. | unknownVariant .. | missingField _
  | duplicateField _ | refused _ => .data
  | _ => .syntaxError

def numberLayout : Decimal.Layout :=
  { plainUpTo := 16, zerosUpTo := 4, plus := true, infinity := "inf", nan := "NaN" }

def Found.text : Found → String
  | null => "null"
  | boolean value => "boolean `" ++ toString value ++ "`"
  | number (.natural value) => "integer `" ++ toString value.toNat ++ "`"
  | number (.negative value) => "integer `" ++ toString value ++ "`"
  | number (.double value) => "floating point `" ++ numberLayout.text value ++ "`"
  | string value => "string " ++ quoted value
  | sequence => "sequence"
  | map => "map"

def oneOf : List String → String
  | [] => "there are no variants"
  | [name] => "expected " ++ ticked name
  | [first, second] => "expected " ++ ticked first ++ " or " ++ ticked second
  | names => "expected one of " ++ ", ".intercalate (names.map ticked)

def Cause.text : Cause → String
  | eofValue => "EOF while parsing a value"
  | eofList => "EOF while parsing a list"
  | eofObject => "EOF while parsing an object"
  | eofString => "EOF while parsing a string"
  | expectedColon => "expected `:`"
  | expectedListCommaOrEnd => "expected `,` or `]`"
  | expectedObjectCommaOrEnd => "expected `,` or `".push '}' ++ "`"
  | expectedIdent => "expected ident"
  | expectedValue => "expected value"
  | invalidEscape => "invalid escape"
  | invalidNumber => "invalid number"
  | numberOutOfRange => "number out of range"
  | controlCharacter => "control character (\\u0000-\\u001F) found while parsing a string"
  | keyMustBeString => "key must be a string"
  | loneSurrogate => "lone leading surrogate in hex escape"
  | unfinishedSurrogate => "unexpected end of hex escape"
  | trailingComma => "trailing comma"
  | trailingCharacters => "trailing characters"
  | recursionLimit => "recursion limit exceeded"
  | invalidType found expected => "invalid type: " ++ found.text ++ ", expected " ++ expected
  | invalidValue found expected => "invalid value: " ++ found.text ++ ", expected " ++ expected
  | invalidLength length expected =>
    "invalid length " ++ toString length ++ ", expected " ++ expected
  | unknownVariant name variants => "unknown variant " ++ ticked name ++ ", " ++ oneOf variants
  | missingField name => "missing field " ++ ticked name
  | duplicateField name => "duplicate field " ++ ticked name
  | refused reason => reason

structure Error where
  cause : Cause
  position : Position
deriving DecidableEq, Repr

def Error.text (error : Error) : String :=
  let line := error.position.line
  let column := error.position.column
  error.cause.text ++ s!" at line {line} column {column}"

end InstanceBroker.Json
