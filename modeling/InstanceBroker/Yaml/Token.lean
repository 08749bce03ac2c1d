import InstanceBroker.Yaml.Scalar

namespace InstanceBroker.Yaml

inductive Token.Kind
  | version (major minor : Nat)
  | handle (name expansion : String)
  | documentStart | documentEnd
  | blockSequence | blockMapping | blockEnd
  | openList | closeList | openMap | closeMap
  | entry | comma | key | value
  | aliasOf (name : String)
  | anchor (name : String)
  /-- A tag without a handle is written out. -/
  | tag (handle : String) (suffix : String)
  | scalar (text : String) (style : Style)
  | finish
deriving DecidableEq, Repr

structure Token where
  kind : Token.Kind
  start : Place
  stop : Place
deriving DecidableEq, Repr

abbrev Token.Read := Except Fault (Token.Kind × Cursor)

def endsName : List Char → Bool
  | [] => true
  | c :: _ =>
    isBlank c || isBreak c || ['?', ':', ',', ']', '}', '%', '@', '`'].contains c

def name (context : Context) (cursor : Cursor) : Except Fault (String × Cursor) :=
  let inside := cursor.drop 1
  let letters := inside.rest.takeWhile isWord
  let after := inside.drop letters.length
  if letters.isEmpty || !endsName after.rest then
    .error ⟨.noName, after.place, some (context, cursor.place)⟩
  else .ok (String.ofList letters, after)

def tagPunctuation : List Char :=
  [';', '/', '?', ':', '@', '&', '=', '+', '$', '.', '%', '!', '~', '*', '\'', '(', ')']

def isTagCharacter (verbatim : Bool) (c : Char) : Bool :=
  isWord c || tagPunctuation.contains c || (verbatim && [',', '[', ']'].contains c)

def octet? : List Char → Option (Nat × List Char)
  | '%' :: high :: low :: rest => (Text.hexadecimal? [high, low]).map (·, rest)
  | _ => none

def leadingOctet? (octet : Nat) : Option (Nat × Nat) :=
  if octet < 0x80 then some (1, octet)
  else if 0xc0 ≤ octet ∧ octet < 0xe0 then some (2, octet % 0x20)
  else if 0xe0 ≤ octet ∧ octet < 0xf0 then some (3, octet % 0x10)
  else if 0xf0 ≤ octet ∧ octet < 0xf8 then some (4, octet % 0x08)
  else none

def trailingOctets (value : Nat) : Nat → List Char → Except (Problem × Nat) Nat
  | 0, _ => .ok value
  | count + 1, text =>
    match octet? text with
    | none => .error (.noOctet, 0)
    | some (octet, rest) =>
      if octet / 0x40 ≠ 2 then .error (.trailingOctet, 0)
      else (trailingOctets (value * 0x40 + octet % 0x40) count rest).mapError
        fun (problem, passed) => (problem, passed + 3)

def escapedCharacter (text : List Char) : Except (Problem × Nat) (Char × Nat) := do
  let some (first, rest) := octet? text | throw (.noOctet, 0)
  let some (count, value) := leadingOctet? first | throw (.leadingOctet, 0)
  let value ← (trailingOctets value (count - 1) rest).mapError
    fun (problem, passed) => (problem, passed + 3)
  return (Char.ofNat value, count)

def tagName (verbatim : Bool) (context : Context) (start : Place) :
    Nat → (reversed : List Char) → Cursor → Except Fault (String × Cursor)
  | 0, reversed, cursor => .ok (String.ofList reversed.reverse, cursor)
  | fuel + 1, reversed, cursor =>
    match cursor.rest with
    | c :: _ =>
      if c = '%' then
        match escapedCharacter cursor.rest with
        | .ok (meant, octets) =>
          tagName verbatim context start fuel (meant :: reversed) (cursor.drop (3 * octets))
        | .error (problem, passed) =>
          .error ⟨problem, (cursor.drop passed).place, some (context, start)⟩
      else if isTagCharacter verbatim c then
        tagName verbatim context start fuel (c :: reversed) (cursor.drop 1)
      else .ok (String.ofList reversed.reverse, cursor)
    | [] => .ok (String.ofList reversed.reverse, cursor)

/-- The name of a tag; it may be empty only after a handle that was none. -/
def tagSuffix (verbatim : Bool) (context : Context) (start : Place) (known : List Char)
    (mayBeEmpty : Bool) (cursor : Cursor) : Except Fault (String × Cursor) := do
  let (suffix, after) ←
    tagName verbatim context start cursor.rest.length known.reverse cursor
  if !mayBeEmpty && suffix.isEmpty then
    throw ⟨.noTagName, after.place, some (context, start)⟩
  return (suffix, after)

def handleLetters (cursor : Cursor) : List Char :=
  match cursor.rest with
  | '!' :: rest =>
    let letters := rest.takeWhile isWord
    match rest.drop letters.length with
    | '!' :: _ => '!' :: letters ++ ['!']
    | _ => '!' :: letters
  | _ => []

def isFullHandle (letters : List Char) : Bool := 1 < letters.length && letters.getLast? = some '!'

def tag (inFlow : Bool) (cursor : Cursor) : Token.Read := do
  let start := cursor.place
  let refused (problem : Problem) (place : Place) : Fault :=
    ⟨problem, place, some (.tag, start)⟩
  let (handle, suffix, after) ←
    if (cursor.drop 1).rest.head? = some '<' then do
      let (suffix, after) ← tagSuffix true .tagName start [] false (cursor.drop 2)
      if after.rest.head? ≠ some '>' then throw (refused .noTagClose after.place)
      pure ("", suffix, after.drop 1)
    else do
      let letters := handleLetters cursor
      let inside := cursor.drop letters.length
      if isFullHandle letters then
        let (suffix, after) ← tagSuffix false .tagName start [] false inside
        pure (String.ofList letters, suffix, after)
      else
        let (suffix, after) ← tagSuffix false .tagName start (letters.drop 1) true inside
        pure (if suffix.isEmpty then ("", "!", after) else ("!", suffix, after))
  if endsWord after.rest || (inFlow && after.rest.head? = some ',') then
    return (.tag handle suffix, after)
  else throw (refused .noBlankOrBreak after.place)

def longestVersion : Nat := 9

def versionNumber (start : Place) (cursor : Cursor) : Except Fault (Nat × Cursor) :=
  let digits := cursor.rest.takeWhile isDigit
  let refused (problem : Problem) (passed : Nat) : Fault :=
    ⟨problem, (cursor.drop passed).place, some (.versionDirective, start)⟩
  if longestVersion < digits.length then .error (refused .longVersion longestVersion)
  else match Text.number? 10 digits with
    | some value =>
      if digits.isEmpty then .error (refused .noVersion 0)
      else .ok (value, cursor.drop digits.length)
    | none => .error (refused .noVersion 0)

def versionDirective (start : Place) (cursor : Cursor) : Token.Read := do
  let (major, point) ← versionNumber start (cursor.dropWhile isBlank)
  if point.rest.head? ≠ some '.' then
    throw ⟨.noVersionPoint, point.place, some (.versionDirective, start)⟩
  let (minor, after) ← versionNumber start (point.drop 1)
  return (.version major minor, after)

def handleDirective (start : Place) (cursor : Cursor) : Token.Read := do
  let refused (problem : Problem) (place : Place) (context : Context) : Fault :=
    ⟨problem, place, some (context, start)⟩
  let cursor := cursor.dropWhile isBlank
  let letters := handleLetters cursor
  let inside := cursor.drop letters.length
  if letters.isEmpty then throw (refused .noExclamation cursor.place .handleName)
  if !isFullHandle letters && letters.length ≠ 1 then
    throw (refused .noExclamation inside.place .handleEnd)
  if !(inside.rest.head?.any isBlank) then
    throw (refused .noBlank inside.place .handleDirective)
  let (expansion, after) ←
    tagSuffix true .expansion start [] false (inside.dropWhile isBlank)
  if !endsWord after.rest then throw (refused .noBlankOrBreak after.place .handleDirective)
  return (.handle (String.ofList letters) expansion, after)

def directive (cursor : Cursor) : Except Fault (Token.Kind × Place × Cursor) := do
  let start := cursor.place
  let refused (problem : Problem) (place : Place) : Fault :=
    ⟨problem, place, some (.directive, start)⟩
  let inside := cursor.drop 1
  let letters := inside.rest.takeWhile isWord
  let after := inside.drop letters.length
  if letters.isEmpty then throw (refused .noDirectiveName after.place)
  if !endsWord after.rest then throw (refused .directiveNameEnd after.place)
  let (kind, after) ← match String.ofList letters with
    | "YAML" => versionDirective start after
    | "TAG" => handleDirective start after
    | _ => throw (refused .unknownDirective after.place)
  let line := after.dropWhile isBlank
  let line := if line.rest.head? = some '#' then line.dropWhile (!isBreak ·) else line
  if !endsLine line.rest then throw (refused .textAfterHeader line.place)
  return (kind, after.place, line.drop 1)

end InstanceBroker.Yaml
