import InstanceBroker.Yaml.Token

namespace InstanceBroker.Yaml

/-- A token that is a key if a colon follows it on its line. -/
structure Candidate where
  index : Nat
  place : Place
  /-- Whether nothing but a key may stand there. -/
  required : Bool
deriving DecidableEq, Repr

def longestKey : Nat := 1024

def Candidate.expired (candidate : Candidate) (place : Place) : Bool :=
  candidate.place.line < place.line || candidate.place.column + longestKey < place.column

structure Progress where
  cursor : Cursor
  tokens : Array Token := #[]
  indent : Int := -1
  outerIndents : List Int := []
  keyAllowed : Bool := true
  candidate : Option Candidate := none
  outerCandidates : List (Option Candidate) := []
  finished : Bool := false

namespace Progress

def inFlow (p : Progress) : Bool := !p.outerCandidates.isEmpty

def place (p : Progress) : Place := p.cursor.place

def column (p : Progress) : Int := p.place.column

def add (p : Progress) (kind : Token.Kind) (start : Place) : Progress :=
  { p with tokens := p.tokens.push ⟨kind, start, p.place⟩ }

def take (p : Progress) (kind : Token.Kind) (count : Nat) : Progress :=
  { p with cursor := p.cursor.drop count }.add kind p.place

def allowKey (p : Progress) (keyAllowed : Bool) : Progress := { p with keyAllowed }

def missingColon (p : Progress) (candidate : Candidate) : Fault :=
  ⟨.keyWithoutColon, p.place, some (.simpleKey, candidate.place)⟩

def expireOne (p : Progress) : Option Candidate → Except Fault (Option Candidate)
  | none => .ok none
  | some candidate =>
    if !candidate.expired p.place then .ok (some candidate)
    else if candidate.required then .error (p.missingColon candidate)
    else .ok none

def expire (p : Progress) : Except Fault Progress := do
  let outerCandidates ← p.outerCandidates.mapM p.expireOne
  return { p with outerCandidates, candidate := ← p.expireOne p.candidate }

def dropCandidate (p : Progress) : Except Fault Progress :=
  match p.candidate with
  | some candidate =>
    if candidate.required then .error (p.missingColon candidate)
    else .ok { p with candidate := none }
  | none => .ok p

def markCandidate (p : Progress) : Except Fault Progress := do
  if !p.keyAllowed then return p
  let required := !p.inFlow && p.indent = p.column
  return { ← p.dropCandidate with candidate := some ⟨p.tokens.size, p.place, required⟩ }

/-- How many tokens are settled whatever follows. -/
def settled (p : Progress) : Nat :=
  (p.candidate :: p.outerCandidates).foldl
    (fun least candidate => (candidate.map (·.index)).elim least (min least)) p.tokens.size

def closeBlocks (p : Progress) (column : Int) : List Int → Int → Progress
  | outer :: rest, indent =>
    if column < indent then (p.add .blockEnd p.place).closeBlocks column rest outer
    else { p with indent, outerIndents := outer :: rest }
  | [], indent => { p with indent, outerIndents := [] }

def unroll (p : Progress) (column : Int) : Progress :=
  if p.inFlow then p else p.closeBlocks column p.outerIndents p.indent

def roll (p : Progress) (column : Nat) (kind : Token.Kind) (place : Place) (index : Nat) :
    Progress :=
  if p.inFlow || column ≤ p.indent then p
  else { p with
    indent := column
    outerIndents := p.indent :: p.outerIndents
    tokens := p.tokens.insertIdxIfInBounds index ⟨kind, place, place⟩ }

def rollHere (p : Progress) (kind : Token.Kind) : Progress :=
  p.roll p.place.column kind p.place p.tokens.size

/-- Passes over blanks, comments and line breaks. A tab is no blank where a key may begin. -/
def skipBlanks (inFlow : Bool) (keyAllowed inComment : Bool) (place : Place) :
    List Char → Cursor × Bool
  | [] => (⟨[], place⟩, keyAllowed)
  | c :: rest =>
    if isBreak c then skipBlanks inFlow (keyAllowed || !inFlow) false (place.after c) rest
    else if inComment || c = ' ' || (c = '\t' && (inFlow || !keyAllowed)) then
      skipBlanks inFlow keyAllowed inComment (place.after c) rest
    else if c = '#' then skipBlanks inFlow keyAllowed true (place.after c) rest
    else (⟨c :: rest, place⟩, keyAllowed)

def toNextToken (p : Progress) : Progress :=
  let (cursor, keyAllowed) := skipBlanks p.inFlow p.keyAllowed false p.place p.cursor.rest
  { p with cursor, keyAllowed }

/-- The end of the text counts as the beginning of another line. -/
def finish (p : Progress) : Except Fault Progress := do
  let place := if p.place.column = 0 then p.place else ⟨p.place.line + 1, 0⟩
  let p ← ({ p with cursor := ⟨[], place⟩ }.unroll (-1)).dropCandidate
  return { p.take .finish 0 with keyAllowed := false, finished := true }

def betweenDocuments (p : Progress) : Except Fault Progress :=
  return (← (p.unroll (-1)).dropCandidate).allowKey false

def takeDirective (p : Progress) : Except Fault Progress := do
  let p ← p.betweenDocuments
  let (kind, stop, cursor) ← directive p.cursor
  return { p with cursor, tokens := p.tokens.push ⟨kind, p.place, stop⟩ }

def openBracket (p : Progress) (kind : Token.Kind) : Except Fault Progress := do
  let p ← p.markCandidate
  return { p with outerCandidates := p.candidate :: p.outerCandidates, candidate := none }
    |>.allowKey true |>.take kind 1

def closeBracket (p : Progress) (kind : Token.Kind) : Except Fault Progress := do
  let p ← p.dropCandidate
  let p := match p.outerCandidates with
    | candidate :: outerCandidates => { p with candidate, outerCandidates }
    | [] => p
  return (p.allowKey false).take kind 1

def takeEntry (p : Progress) : Except Fault Progress := do
  if !p.inFlow && !p.keyAllowed then throw ⟨.entryNotAllowed, p.place, none⟩
  let p ← (p.rollHere .blockSequence).dropCandidate
  return (p.allowKey true).take .entry 1

def takeComma (p : Progress) : Except Fault Progress :=
  return ((← p.dropCandidate).allowKey true).take .comma 1

def takeKey (p : Progress) : Except Fault Progress := do
  if !p.inFlow && !p.keyAllowed then throw ⟨.keyNotAllowed, p.place, none⟩
  let p ← (p.rollHere .blockMapping).dropCandidate
  return (p.allowKey !p.inFlow).take .key 1

def takeValue (p : Progress) : Except Fault Progress := do
  match p.candidate with
  | some candidate =>
    let key : Token := ⟨.key, candidate.place, candidate.place⟩
    let p := { p with
      tokens := p.tokens.insertIdxIfInBounds candidate.index key
      candidate := none }
    let p := p.roll candidate.place.column .blockMapping candidate.place candidate.index
    return (p.allowKey false).take .value 1
  | none =>
    if !p.inFlow && !p.keyAllowed then throw ⟨.valueNotAllowed, p.place, none⟩
    return ((p.rollHere .blockMapping).allowKey !p.inFlow).take .value 1

def takeNode (p : Progress) (read : Cursor → Token.Read) : Except Fault Progress := do
  let p := (← p.markCandidate).allowKey false
  let (kind, cursor) ← read p.cursor
  return { p with cursor }.add kind p.place

def addScalar (p : Progress) (scalar : Spelling) : Progress :=
  { p with
    cursor := scalar.cursor
    keyAllowed := p.keyAllowed || scalar.afterBreak
    tokens := p.tokens.push ⟨.scalar scalar.text scalar.style, p.place, scalar.stop⟩ }

def takeScalar (p : Progress) (read : Cursor → Except Fault Spelling) :
    Except Fault Progress := do
  let p := (← p.markCandidate).allowKey false
  return p.addScalar (← read p.cursor)

/-- A block scalar ends with its line, so that a key may follow. -/
def takeBlockScalar (p : Progress) (literal : Bool) : Except Fault Progress := do
  let p := (← p.dropCandidate).allowKey true
  return p.addScalar (← blockScalar literal p.indent p.cursor)

def takeSingleQuotes (p : Progress) : Except Fault Progress :=
  p.takeScalar fun cursor =>
    singleQuotes cursor.place [] .none (cursor.drop 1).place (cursor.drop 1).rest

def takeDoubleQuotes (p : Progress) : Except Fault Progress :=
  p.takeScalar fun cursor =>
    doubleQuotes cursor.place [] .none (cursor.drop 1).place (cursor.drop 1).rest

def takePlain (p : Progress) : Except Fault Progress :=
  p.takeScalar fun cursor =>
    plainScalar p.inFlow (p.indent + 1) cursor.place [] .none cursor.place cursor.place cursor.rest

def indicators : List Char :=
  [',', '[', ']', '{', '}', '#', '&', '*', '!', '|', '>', '\'', '"', '%', '@', '`']

def mayBeginPlain (inFlow : Bool) (c : Char) (rest : List Char) : Bool :=
  if c = '-' then !(rest.head?.any isBlank)
  else if c = '?' || c = ':' then !inFlow && !endsWord rest
  else !(isBlank c || indicators.contains c)

def next (p : Progress) : Except Fault Progress := do
  let p ← p.toNextToken.expire
  let p := p.unroll p.column
  match p.cursor.rest with
  | [] => p.finish
  | c :: rest =>
    let lineStart := p.place.column = 0
    if lineStart && c = '%' then p.takeDirective
    else if lineStart && isMarker '-' (c :: rest) then
      return (← p.betweenDocuments).take .documentStart 3
    else if lineStart && isMarker '.' (c :: rest) then
      return (← p.betweenDocuments).take .documentEnd 3
    else if c = '[' then p.openBracket .openList
    else if c = '{' then p.openBracket .openMap
    else if c = ']' then p.closeBracket .closeList
    else if c = '}' then p.closeBracket .closeMap
    else if c = ',' then p.takeComma
    else if c = '-' && endsWord rest then p.takeEntry
    else if c = '?' && (p.inFlow || endsWord rest) then p.takeKey
    else if c = ':' && (p.inFlow || endsWord rest) then p.takeValue
    else if c = '*' then
      p.takeNode fun cursor =>
        (name .aliasName cursor).map fun (name, cursor) => (.aliasOf name, cursor)
    else if c = '&' then
      p.takeNode fun cursor =>
        (name .anchor cursor).map fun (name, cursor) => (.anchor name, cursor)
    else if c = '!' then p.takeNode (tag p.inFlow)
    else if c = '|' && !p.inFlow then p.takeBlockScalar true
    else if c = '>' && !p.inFlow then p.takeBlockScalar false
    else if c = '\'' then p.takeSingleQuotes
    else if c = '"' then p.takeDoubleQuotes
    else if mayBeginPlain p.inFlow c rest then p.takePlain
    else throw ⟨.strayCharacter, p.place, some (.nextToken, p.place)⟩

end Progress

structure TokenStream where
  tokens : List Token
  fault : Option Fault
deriving DecidableEq, Repr

/-- Every token takes a character, but for those that open and close blocks. -/
def Progress.run : Nat → Progress → TokenStream
  | 0, p => ⟨p.tokens.toList, none⟩
  | fuel + 1, p =>
    match do (← p.next).expire with
    | .ok q => if q.finished then ⟨q.tokens.toList, none⟩ else q.run fuel
    | .error fault => ⟨(p.tokens.take p.settled).toList, some fault⟩

def byteOrderMark : Char := '\ufeff'

/-- A byte order mark belongs to no line; one more may stand on the first. -/
def TokenStream.ofText (text : List Char) : TokenStream :=
  let text := if text.head? = some byteOrderMark then text.drop 1 else text
  let cursor : Cursor := ⟨unifyBreaks text, {}⟩
  let cursor := if text.head? = some byteOrderMark then cursor.drop 1 else cursor
  Progress.run (text.length + 1) { cursor }

end InstanceBroker.Yaml
