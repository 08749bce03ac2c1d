import InstanceBroker.Json.Error

namespace InstanceBroker.Json

structure Failure where
  read : Error
  skip : Error
deriving DecidableEq, Repr

def Failure.both (error : Error) : Failure := ⟨error, error⟩

inductive Token.Kind
  | openList | closeList | openObject | closeObject | comma | colon
  | null
  | boolean (value : Bool)
  | number (value : Except Error Number)
  | string (value : Except Error String)
  | brokenString (failure : Failure)
  | broken (failure : Failure)
  | stray
  | finish

structure Token where
  kind : Token.Kind
  start : Position
  stop : Position

def Token.peek (token : Token) : Position :=
  match token.kind with
  | .finish => token.start
  | _ => ⟨token.start.line, token.start.column + 1⟩

structure Cursor where
  rest : List Char
  position : Position := {}

namespace Cursor

def here (cursor : Cursor) (cause : Cause) : Error := ⟨cause, cursor.position⟩

def next (cursor : Cursor) (cause : Cause) : Error :=
  match cursor.rest with
  | [] => cursor.here cause
  | c :: _ => ⟨cause, cursor.position.afterByte c⟩

end Cursor

def isBlank (c : Char) : Bool := c = ' ' || c = '\n' || c = '\t' || c = '\r'

def isDigit (c : Char) : Bool := '0' ≤ c && c ≤ '9'

def digitValue (c : Char) : Nat := c.toNat - '0'.toNat

def hexValue? (c : Char) : Option Nat :=
  if isDigit c then some (digitValue c)
  else if 'a' ≤ c ∧ c ≤ 'f' then some (c.toNat - 'a'.toNat + 10)
  else if 'A' ≤ c ∧ c ≤ 'F' then some (c.toNat - 'A'.toNat + 10)
  else none

def skipBlanks (position : Position) : List Char → Cursor
  | [] => ⟨[], position⟩
  | c :: rest => if isBlank c then skipBlanks (position.after c) rest else ⟨c :: rest, position⟩

def takeDigits (position : Position) : List Char → List Char × Cursor
  | [] => ([], ⟨[], position⟩)
  | c :: rest =>
    if isDigit c then
      let (digits, cursor) := takeDigits (position.after c) rest
      (c :: digits, cursor)
    else ([], ⟨c :: rest, position⟩)

def word (position : Position) : (expected text : List Char) → Except Error Cursor
  | [], text => .ok ⟨text, position⟩
  | _ :: _, [] => .error ⟨.eofValue, position⟩
  | e :: expected, c :: rest =>
    if e = c then word (position.after c) expected rest
    else .error ⟨.expectedIdent, position.afterByte c⟩

namespace Number

def maxNatural : Nat := pow2 64 - 1
def maxExponent : Nat := pow2 31 - 1

/-- Multiplies or divides by a power of ten that is itself a double. A quotient by a power that no
double holds is taken in several steps, until nothing is left. -/
def scale (magnitude : Binary64) (exponent : Int) : Option Binary64 :=
  if magnitude.isZero then some magnitude
  else if 308 < exponent then none
  else if 0 ≤ exponent then
    match magnitude.mul (.ofNat (pow10 exponent.toNat)) with
    | .infinite _ => none
    | product => some product
  else if -308 ≤ exponent then some (magnitude.div (.ofNat (pow10 (-exponent).toNat)))
  else scale (magnitude.div (.ofNat (pow10 308))) (exponent + 308)
termination_by (-exponent).toNat

def ofParts? (isNegative : Bool) (significand : Nat) (exponent : Int) : Option Number :=
  (scale (.ofNat significand) exponent).map fun magnitude =>
    .double (if isNegative then magnitude.neg else magnitude)

def ofNatural (isNegative : Bool) (significand : Nat) : Number :=
  if !isNegative then .natural (.ofNat significand)
  else if significand = 0 ∨ pow2 63 < significand then
    .double (Binary64.ofNat significand).neg
  else .negative (-significand)

/-- Digits are taken up while the significand fits 64 bits; true if some were left out. -/
def accumulate (significand : Nat) : List Char → Nat × Nat × Bool
  | [] => (significand, 0, false)
  | c :: rest =>
    let grown := significand * 10 + digitValue c
    if maxNatural < grown then (significand, 0, true)
    else
      let (significand, count, full) := accumulate grown rest
      (significand, count + 1, full)

def exponentValue (position : Position) (value : Nat) : List Char → Except Position Nat
  | [] => .ok value
  | c :: rest =>
    let grown := value * 10 + digitValue c
    if maxExponent < grown then .error (position.after c)
    else exponentValue (position.after c) grown rest

end Number

structure Fraction where
  digits : Option (List Char) := none
  exponent : Option (Bool × Position × List Char) := none

def numberValue (isNegative : Bool) (integer : List Char) (fraction : Fraction)
    (stop : Position) : Except Error Number :=
  let (significand, count, full) := Number.accumulate 0 integer
  let left : Int := (integer.length - count : Nat)
  let (significand, exponent) := match fraction.digits with
    | none => (significand, left)
    | some digits =>
      let (grown, count, _) := Number.accumulate significand digits
      (grown, left - count)
  let outOfRange (position : Position) : Except Error Number :=
    .error ⟨.numberOutOfRange, position⟩
  match fraction.exponent with
  | some (below, start, digits) =>
    match Number.exponentValue start 0 digits with
    | .ok value =>
      let exponent := if below then exponent - value else exponent + value
      match Number.ofParts? isNegative significand exponent with
      | some number => .ok number
      | none => outOfRange stop
    | .error position =>
      if significand ≠ 0 ∧ !below then outOfRange position
      else .ok (.double (.zero isNegative))
  | none =>
    if fraction.digits.isNone && !full then .ok (Number.ofNatural isNegative significand)
    else match Number.ofParts? isNegative significand exponent with
      | some number => .ok number
      | none => outOfRange stop

def scanExponent (cursor : Cursor) :
    Except Failure (Option (Bool × Position × List Char) × Cursor) :=
  match cursor.rest with
  | c :: rest =>
    if c = 'e' ∨ c = 'E' then
      let position := cursor.position.after c
      let (below, position, rest) := match rest with
        | '+' :: rest => (false, position.after '+', rest)
        | '-' :: rest => (true, position.after '-', rest)
        | _ => (false, position, rest)
      match takeDigits position rest with
      | ([], { rest := [], .. }) =>
        .error ⟨⟨.eofValue, position⟩, ⟨.invalidNumber, position⟩⟩
      | ([], { rest := c :: _, .. }) => .error (.both ⟨.invalidNumber, position.afterByte c⟩)
      | (digits, cursor) => .ok (some (below, position, digits), cursor)
    else .ok (none, cursor)
  | [] => .ok (none, cursor)

def scanFraction (cursor : Cursor) : Except Failure (Fraction × Cursor) := do
  match cursor.rest with
  | '.' :: rest =>
    let (digits, afterDigits) := takeDigits (cursor.position.after '.') rest
    if digits.isEmpty then
      throw ⟨match afterDigits.rest with
        | [] => afterDigits.next .eofValue
        | _ => afterDigits.next .invalidNumber, afterDigits.next .invalidNumber⟩
    let (exponent, cursor) ← scanExponent afterDigits
    return ({ digits := some digits, exponent }, cursor)
  | _ =>
    let (exponent, cursor) ← scanExponent cursor
    return ({ exponent }, cursor)

def scanNumber (isNegative : Bool) (cursor : Cursor) :
    Except Failure (Except Error Number × Cursor) := do
  let (integer, afterInteger) ← match cursor.rest with
    | '0' :: rest =>
      let afterZero : Cursor := ⟨rest, cursor.position.after '0'⟩
      if (rest.head?).any isDigit then throw (.both (afterZero.next .invalidNumber))
      pure (['0'], afterZero)
    | _ => pure (takeDigits cursor.position cursor.rest)
  if integer.isEmpty then
    throw (match cursor.rest with
      | [] => ⟨cursor.here .eofValue, cursor.here .invalidNumber⟩
      | _ => .both (cursor.next .invalidNumber))
  let (fraction, stop) ← scanFraction afterInteger
  return (numberValue isNegative integer fraction stop.position, stop)

def hexUnit (cursor : Cursor) : Except Error (Nat × Cursor) :=
  let stop := cursor.position.afterBytes 4 cursor.rest
  match cursor.rest with
  | a :: b :: c :: d :: rest =>
    match hexValue? a, hexValue? b, hexValue? c, hexValue? d with
    | some a, some b, some c, some d =>
      .ok (((a * 16 + b) * 16 + c) * 16 + d, ⟨rest, stop⟩)
    | _, _, _, _ => .error ⟨.invalidEscape, stop⟩
  | rest =>
    if rest.foldl (fun bytes c => bytes + c.utf8Size) 0 < 4 then .error ⟨.eofString, stop⟩
    else .error ⟨.invalidEscape, stop⟩

def simpleEscape? : Char → Option Char
  | '"' => some '"'
  | '\\' => some '\\'
  | '/' => some '/'
  | 'b' => some '\x08'
  | 'f' => some '\x0c'
  | 'n' => some '\n'
  | 'r' => some '\r'
  | 't' => some '\t'
  | _ => none

/-- The character a unit stands for, with the unit that must follow a leading surrogate. -/
def escapedChar (unit : Nat) (cursor : Cursor) : Except Error (Char × Cursor) :=
  if 0xDC00 ≤ unit ∧ unit ≤ 0xDFFF then .error (cursor.here .loneSurrogate)
  else if unit < 0xD800 ∨ 0xDBFF < unit then .ok (.ofNat unit, cursor)
  else match cursor.rest with
    | [] => .error (cursor.here .eofString)
    | '\\' :: rest =>
      let cursor : Cursor := ⟨rest, cursor.position.after '\\'⟩
      match rest with
      | [] => .error (cursor.here .eofString)
      | 'u' :: rest => do
        let (low, cursor) ← hexUnit ⟨rest, cursor.position.after 'u'⟩
        if low < 0xDC00 ∨ 0xDFFF < low then throw (cursor.here .loneSurrogate)
        return (.ofNat ((unit - 0xD800) * 0x400 + (low - 0xDC00) + 0x10000), cursor)
      | _ => .error (cursor.next .unfinishedSurrogate)
    | _ => .error (cursor.next .unfinishedSurrogate)

/-- Reads the rest of a string, its characters in reverse before it. -/
def readString : Nat → Cursor → List Char → Except Error (String × Cursor)
  | 0, cursor, _ => .error (cursor.here .eofString)
  | fuel + 1, ⟨rest, position⟩, read =>
    match rest with
    | [] => .error ⟨.eofString, position⟩
    | '"' :: rest => .ok (String.ofList read.reverse, ⟨rest, position.after '"'⟩)
    | '\\' :: [] => .error ⟨.eofString, position.after '\\'⟩
    | '\\' :: 'u' :: rest => do
      let (unit, cursor) ← hexUnit ⟨rest, (position.after '\\').after 'u'⟩
      let (c, cursor) ← escapedChar unit cursor
      readString fuel cursor (c :: read)
    | '\\' :: c :: rest => match simpleEscape? c with
      | some meant => readString fuel ⟨rest, (position.after '\\').after c⟩ (meant :: read)
      | none => .error ⟨.invalidEscape, (position.after '\\').afterByte c⟩
    | c :: rest =>
      if c.toNat < 0x20 then .error ⟨.controlCharacter, position.after c⟩
      else readString fuel ⟨rest, position.after c⟩ (c :: read)

def skipString : Nat → Cursor → Except Error Cursor
  | 0, cursor => .error (cursor.here .eofString)
  | fuel + 1, ⟨rest, position⟩ =>
    match rest with
    | [] => .error ⟨.eofString, position⟩
    | '"' :: rest => .ok ⟨rest, position.after '"'⟩
    | '\\' :: [] => .error ⟨.eofString, position.after '\\'⟩
    | '\\' :: 'u' :: rest => do
      let (_, cursor) ← hexUnit ⟨rest, (position.after '\\').after 'u'⟩
      skipString fuel cursor
    | '\\' :: c :: rest => match simpleEscape? c with
      | some _ => skipString fuel ⟨rest, (position.after '\\').after c⟩
      | none => .error ⟨.invalidEscape, (position.after '\\').afterByte c⟩
    | c :: rest =>
      if c.toNat < 0x20 then .error ⟨.controlCharacter, position⟩
      else skipString fuel ⟨rest, position.after c⟩

def scanString (cursor : Cursor) : Token.Kind × Cursor :=
  let fuel := cursor.rest.length + 1
  let read := readString fuel cursor []
  match read, skipString fuel cursor with
  | .ok (value, stop), _ => (.string (.ok value), stop)
  | .error e, .ok stop => (.string (.error e), stop)
  | .error e, .error skip => (.brokenString ⟨e, skip⟩, cursor)

def scanWord (kind : Token.Kind) (expected : List Char) (cursor : Cursor) : Token.Kind × Cursor :=
  match word cursor.position expected cursor.rest with
  | .ok stop => (kind, stop)
  | .error e => (.broken (.both e), cursor)

/-- The token that begins with a character; a faulty one does not move on. -/
def scanToken (c : Char) (start : Cursor) (rest : List Char) : Token.Kind × Cursor :=
  let past : Cursor := ⟨rest, start.position.after c⟩
  let number (isNegative : Bool) (cursor : Cursor) : Token.Kind × Cursor :=
    match scanNumber isNegative cursor with
    | .ok (value, stop) => (.number value, stop)
    | .error failure => (.broken failure, cursor)
  match c with
  | '[' => (.openList, past)
  | ']' => (.closeList, past)
  | '{' => (.openObject, past)
  | '}' => (.closeObject, past)
  | ',' => (.comma, past)
  | ':' => (.colon, past)
  | 'n' => scanWord .null ['u', 'l', 'l'] past
  | 't' => scanWord (.boolean true) ['r', 'u', 'e'] past
  | 'f' => scanWord (.boolean false) ['a', 'l', 's', 'e'] past
  | '"' => scanString past
  | '-' => number true past
  | c => if isDigit c then number false start else (.stray, start)

def Token.Kind.endsScan : Token.Kind → Bool
  | .brokenString _ | .broken _ | .stray | .finish => true
  | _ => false

def scan : Nat → Cursor → List Token
  | 0, _ => []
  | fuel + 1, cursor =>
    let start := skipBlanks cursor.position cursor.rest
    match start.rest with
    | [] => [⟨.finish, start.position, start.position⟩]
    | c :: rest =>
      let (kind, stop) := scanToken c start rest
      ⟨kind, start.position, stop.position⟩ :: if kind.endsScan then [] else scan fuel stop

def tokens (text : String) : List Token :=
  let chars := text.toList
  scan (chars.length + 1) ⟨chars, {}⟩

end InstanceBroker.Json
