namespace InstanceBroker.Yaml

/-- A line and a column on it, both counted from zero. -/
structure Place where
  line : Nat := 0
  column : Nat := 0
deriving DecidableEq, Repr

def isBlank (c : Char) : Bool := c = ' ' || c = '\t'

def isBreak (c : Char) : Bool := c = '\n' || c = '\u2028' || c = '\u2029'

def isDigit (c : Char) : Bool := '0' ≤ c && c ≤ '9'

def isWord (c : Char) : Bool := c.isAlphanum || c = '_' || c = '-'

def Place.after (place : Place) (c : Char) : Place :=
  if isBreak c then ⟨place.line + 1, 0⟩ else ⟨place.line, place.column + 1⟩

def Place.isOrigin (place : Place) : Bool := place = {}

def Place.text (place : Place) : String :=
  "line " ++ toString (place.line + 1) ++ " column " ++ toString (place.column + 1)

/-- Carriage returns, line feeds, both together and the next-line character all end a line. -/
def unifyBreaks : List Char → List Char
  | [] => []
  | '\r' :: '\n' :: rest => '\n' :: unifyBreaks rest
  | c :: rest => (if c = '\r' || c = '\x85' then '\n' else c) :: unifyBreaks rest

structure Cursor where
  rest : List Char
  place : Place := {}

def Cursor.drop (cursor : Cursor) (count : Nat) : Cursor :=
  ⟨cursor.rest.drop count, (cursor.rest.take count).foldl Place.after cursor.place⟩

def Cursor.dropWhile (cursor : Cursor) (p : Char → Bool) : Cursor :=
  cursor.drop (cursor.rest.takeWhile p).length

def endsWord : List Char → Bool
  | [] => true
  | c :: _ => isBlank c || isBreak c

def endsLine : List Char → Bool
  | [] => true
  | c :: _ => isBreak c

def isMarker (c : Char) : List Char → Bool
  | c₁ :: c₂ :: c₃ :: rest => c₁ = c && c₂ = c && c₃ = c && endsWord rest
  | _ => false

def atMarker (place : Place) (rest : List Char) : Bool :=
  place.column = 0 && (isMarker '-' rest || isMarker '.' rest)

end InstanceBroker.Yaml
