import InstanceBroker.Yaml.Fault
import InstanceBroker.Text.Radix

namespace InstanceBroker.Yaml

inductive Style
  | plain | singleQuoted | doubleQuoted | literal | folded
deriving DecidableEq, Repr

structure Spelling where
  text : String
  style : Style
  stop : Place
  cursor : Cursor
  /-- Whether a line break ended the scalar. -/
  afterBreak : Bool

inductive Gap
  | blanks (found : List Char)
  | lines (first : Option Char) (more : List Char)

namespace Gap

def none : Gap := blanks []

def isNone : Gap → Bool
  | blanks [] => true
  | _ => false

def isLines : Gap → Bool
  | blanks _ => false
  | lines _ _ => true

/-- Blanks next to a line break are dropped. -/
def add (c : Char) : Gap → Gap
  | blanks found => if isBreak c then lines (some c) [] else blanks (c :: found)
  | lines first more => if isBreak c then lines first (c :: more) else lines first more

/-- A single line break becomes a space; of several the first one is dropped. -/
def folded : Gap → List Char
  | blanks found => found
  | lines (some '\n') [] => [' ']
  | lines (some '\n') more => more
  | lines first more => more ++ first.toList

end Gap

def spell (style : Style) (reversed : List Char) (stop : Place) (cursor : Cursor)
    (afterBreak : Bool) : Spelling :=
  ⟨String.ofList reversed.reverse, style, stop, cursor, afterBreak⟩

def endsPlain (inFlow : Bool) (c : Char) (rest : List Char) : Bool :=
  (c = ':' && endsWord rest) || (inFlow && [',', '[', ']', '{', '}'].contains c)

def strayColon (inFlow : Bool) (c : Char) : List Char → Bool
  | next :: _ => inFlow && c = ':' && [',', '?', '[', ']', '{', '}'].contains next
  | [] => false

def endsAfterGap (inFlow : Bool) (indent : Int) (place : Place) (c : Char) (rest : List Char) :
    Bool :=
  (!inFlow && place.column < indent) || atMarker place (c :: rest) || c = '#'

def plainScalar (inFlow : Bool) (indent : Int) (start : Place) (text : List Char) (gap : Gap)
    (stop place : Place) : List Char → Except Fault Spelling
  | [] => .ok (spell .plain text stop ⟨[], place⟩ gap.isLines)
  | c :: rest =>
    if isBlank c || isBreak c then
      if c = '\t' && gap.isLines && place.column < indent then
        .error ⟨.tabBeforeIndentation, place, some (.plainScalar, start)⟩
      else plainScalar inFlow indent start text (gap.add c) stop (place.after c) rest
    else if !gap.isNone && endsAfterGap inFlow indent place c rest then
      .ok (spell .plain text stop ⟨c :: rest, place⟩ gap.isLines)
    else if strayColon inFlow c rest then
      .error ⟨.colonInWord, place, some (.plainScalar, start)⟩
    else if endsPlain inFlow c rest then
      .ok (spell .plain text stop ⟨c :: rest, place⟩ gap.isLines)
    else
      plainScalar inFlow indent start (c :: (gap.folded ++ text)) .none (place.after c)
        (place.after c) rest

def namedEscape? : Char → Option Char
  | '0' => some '\x00'
  | 'a' => some '\x07'
  | 'b' => some '\x08'
  | 't' | '\t' => some '\t'
  | 'n' => some '\n'
  | 'v' => some '\x0b'
  | 'f' => some '\x0c'
  | 'r' => some '\r'
  | 'e' => some '\x1b'
  | ' ' => some ' '
  | '"' => some '"'
  | '/' => some '/'
  | '\\' => some '\\'
  | 'N' => some '\x85'
  | '_' => some '\xa0'
  | 'L' => some '\u2028'
  | 'P' => some '\u2029'
  | _ => none

def escapeLength? : Char → Option Nat
  | 'x' => some 2
  | 'u' => some 4
  | 'U' => some 8
  | _ => none

def singleQuotes (start : Place) (text : List Char) (gap : Gap) (place : Place) :
    List Char → Except Fault Spelling
  | [] => .error ⟨.unclosedQuotes, place, some (.quotedScalar, start)⟩
  | c :: rest =>
    if isBlank c || isBreak c then singleQuotes start text (gap.add c) (place.after c) rest
    else if atMarker place (c :: rest) then
      .error ⟨.markerInQuotes, place, some (.quotedScalar, start)⟩
    else
      let text := gap.folded ++ text
      let place := place.after c
      if c ≠ '\'' then singleQuotes start (c :: text) .none place rest
      else match rest with
        | '\'' :: rest => singleQuotes start (c :: text) .none (place.after c) rest
        | rest => .ok (spell .singleQuoted text place ⟨rest, place⟩ false)

def doubleQuotes (start : Place) (text : List Char) (gap : Gap) (place : Place) :
    List Char → Except Fault Spelling
  | [] => .error ⟨.unclosedQuotes, place, some (.quotedScalar, start)⟩
  | c :: rest =>
    if isBlank c || isBreak c then doubleQuotes start text (gap.add c) (place.after c) rest
    else if atMarker place (c :: rest) then
      .error ⟨.markerInQuotes, place, some (.quotedScalar, start)⟩
    else
      let text := gap.folded ++ text
      if c = '"' then
        .ok (spell .doubleQuoted text (place.after c) ⟨rest, place.after c⟩ false)
      else if c ≠ '\\' then doubleQuotes start (c :: text) .none (place.after c) rest
      else
        let refused (problem : Problem) (place : Place) :=
          .error ⟨problem, place, some (.quotedEscape, start)⟩
        match rest with
        | [] => refused .unknownEscape place
        | e :: rest =>
          let inside := (place.after c).after e
          if isBreak e then doubleQuotes start text (.lines Option.none []) inside rest
          else match namedEscape? e, escapeLength? e with
            | some meant, _ => doubleQuotes start (meant :: text) .none inside rest
            | Option.none, Option.none => refused .unknownEscape place
            | Option.none, some length =>
              let digits := rest.take length
              match Text.hexadecimal? digits with
              | Option.none => refused .noHexadecimal inside
              | some value =>
                if digits.length < length then refused .noHexadecimal inside
                else if value.isValidChar then
                  doubleQuotes start (Char.ofNat value :: text) .none
                    ⟨inside.line, inside.column + length⟩ (rest.drop length)
                else refused .noCodePoint inside
termination_by rest => rest.length

/-- The first line of a block scalar: what becomes of its last line breaks and, if it is told, how
far the scalar is indented. -/
structure BlockHeader where
  /-- All line breaks at the end stay, or none of them; by default one does. -/
  keep : Option Bool := none
  indentation : Option Nat := none

def indentationDigit? (c : Char) : Option Nat :=
  if isDigit c then some (c.toNat - '0'.toNat) else none

def keepSign? : Char → Option Bool
  | '+' => some true
  | '-' => some false
  | _ => none

def BlockHeader.ofChars : List Char → BlockHeader × Nat
  | c :: d :: _ =>
    match keepSign? c, indentationDigit? c with
    | some keep, _ =>
      match indentationDigit? d with
      | some n => (⟨some keep, some n⟩, 2)
      | none => (⟨some keep, none⟩, 1)
    | none, some n =>
      match keepSign? d with
      | some keep => (⟨some keep, some n⟩, 2)
      | none => (⟨none, some n⟩, 1)
    | none, none => ({}, 0)
  | [c] =>
    match keepSign? c, indentationDigit? c with
    | none, none => ({}, 0)
    | keep, indentation => (⟨keep, indentation⟩, 1)
  | [] => ({}, 0)

structure BlockLines where
  text : List Char := []
  last : Option Char := none
  empty : List Char := []
  indented : Bool := false

/-- Before the next line with text, folding replaces a single break by a space. -/
def BlockLines.begin (literal : Bool) (c : Char) (lines : BlockLines) : BlockLines :=
  let folds := !literal && lines.last = some '\n' && !lines.indented && !isBlank c
  let between :=
    if !folds then lines.empty ++ lines.last.toList
    else if lines.empty.isEmpty then [' '] else lines.empty
  { text := c :: (between ++ lines.text), indented := isBlank c }

def BlockLines.finish (keep : Option Bool) (lines : BlockLines) : List Char :=
  match keep with
  | some true => lines.empty ++ lines.last.toList ++ lines.text
  | none => lines.last.toList ++ lines.text
  | some false => lines.text

/-- Passes over the empty lines at the front; yields their breaks, the deepest column, the end of
the last of them and what is left. -/
def leadingLines (start : Place) (deepest : Nat) (found : List Char) (stop place : Place) :
    List Char → Except Fault (List Char × Nat × Place × Cursor)
  | [] => .ok (found, max deepest place.column, stop, ⟨[], place⟩)
  | c :: rest =>
    if c = ' ' then leadingLines start deepest found stop (place.after c) rest
    else if c = '\t' then .error ⟨.tabInIndentation, place, some (.blockScalar, start)⟩
    else
      let deepest := max deepest place.column
      if isBreak c then
        leadingLines start deepest (c :: found) (place.after c) (place.after c) rest
      else .ok (found, deepest, stop, ⟨c :: rest, place⟩)

def blockLines (literal : Bool) (indent : Nat) (start : Place) (lines : BlockLines)
    (inLine : Bool) (stop place : Place) :
    List Char → Except Fault (BlockLines × Place × Cursor)
  | [] => .ok (lines, if inLine then place else stop, ⟨[], place⟩)
  | c :: rest =>
    let next := place.after c
    if inLine then
      if isBreak c then
        blockLines literal indent start { lines with last := some c } false next next rest
      else
        blockLines literal indent start { lines with text := c :: lines.text } true stop next rest
    else if place.column < indent && c = ' ' then
      blockLines literal indent start lines false stop next rest
    else if place.column < indent && c = '\t' then
      .error ⟨.tabInIndentation, place, some (.blockScalar, start)⟩
    else if isBreak c then
      blockLines literal indent start { lines with empty := c :: lines.empty } false next next rest
    else if place.column = indent then
      blockLines literal indent start (lines.begin literal c) true stop next rest
    else .ok (lines, stop, ⟨c :: rest, place⟩)

/-- A block scalar from its indicator on, within what is indented by `parent`. -/
def blockScalar (literal : Bool) (parent : Int) (cursor : Cursor) : Except Fault Spelling := do
  let start := cursor.place
  let inside := cursor.drop 1
  let (header, signs) := BlockHeader.ofChars inside.rest
  let refused (problem : Problem) (place : Place) : Except Fault Spelling :=
    .error ⟨problem, place, some (.blockScalar, start)⟩
  if header.indentation = some 0 then
    return ← refused .zeroIndentation
      (inside.drop (inside.rest.takeWhile fun c => c = '+' || c = '-').length).place
  let line := (inside.drop signs).dropWhile isBlank
  let line := if line.rest.head? = some '#' then line.dropWhile (!isBreak ·) else line
  if !endsLine line.rest then return ← refused .textAfterHeader line.place
  let body := line.drop 1
  let least := (parent + 1).toNat
  let (lines, stop, rest) ← match header.indentation with
    | some n => do
      let indent := if 0 ≤ parent then parent.toNat + n else n
      blockLines literal indent start {} false body.place body.place body.rest
    | none => do
      let (empty, deepest, stop, rest) ←
        leadingLines start 0 [] body.place body.place body.rest
      blockLines literal (max (max deepest least) 1) start { empty } false stop rest.place rest.rest
  return spell (if literal then .literal else .folded) (lines.finish header.keep) stop rest true

end InstanceBroker.Yaml
