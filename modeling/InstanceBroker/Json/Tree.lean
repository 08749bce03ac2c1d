import InstanceBroker.Json.Token

namespace InstanceBroker.Json

mutual

inductive Tree
  | null (stop : Position)
  | boolean (value : Bool) (stop : Position)
  | number (value : Except Error Number) (stop : Position)
  | string (value : Except Error String) (stop : Position)
  | list (start : Position) (items : List Item) (ending : Ending)
  | object (start : Position) (members : List Member) (ending : Ending)
  | broken (failure : Failure)

/-- An element of a list; `after` is where a reader stands that gives up behind it. -/
inductive Item
  | mk (value : Tree) (after : Position)

/-- A member of an object with where a reader stands that gives up behind its key or its value. -/
inductive Member
  | mk (key : Except Error String) (afterKey : Position) (value : Tree) (afterValue : Position)

inductive Ending
  | closed (stop : Position)
  | failed (failure : Failure)
  /-- There is no key where the first one should be, but this value. -/
  | keyless (failure : Failure) (instead : Tree)

end

namespace Item

def value : Item → Tree
  | mk value _ => value

def after : Item → Position
  | mk _ after => after

end Item

namespace Member

def key : Member → Except Error String
  | mk key .. => key

def afterKey : Member → Position
  | mk _ afterKey _ _ => afterKey

def value : Member → Tree
  | mk _ _ value _ => value

def afterValue : Member → Position
  | mk _ _ _ afterValue => afterValue

end Member

/-- Where a reader stands that gives up an object before this token: it still takes a brace. -/
def Token.leavingObject (token : Token) : Position :=
  match token.kind with
  | .closeObject => token.stop
  | _ => token.start

/-- Where a reader stands that gives up a list before these tokens: it takes a bracket, or a comma
and the blanks behind it. -/
def leavingList : List Token → Position
  | [] => {}
  | token :: rest => match token.kind, rest with
    | .closeList, _ => token.stop
    | .comma, next :: _ => next.start
    | .comma, [] => token.stop
    | _, _ => token.start

def leavingObject : List Token → Position
  | [] => {}
  | token :: _ => token.leavingObject

def Token.at (token : Token) (cause : Cause) : Error := ⟨cause, token.peek⟩

def giveUp (failure : Failure) : Tree × List Token := (.broken failure, [])

mutual

def Tree.read : Nat → List Token → Tree × List Token
  | 0, _ | _, [] => giveUp (.both ⟨.recursionLimit, {}⟩)
  | fuel + 1, token :: rest => match token.kind with
    | .null => (.null token.stop, rest)
    | .boolean value => (.boolean value token.stop, rest)
    | .number value => (.number value token.stop, rest)
    | .string value => (.string value token.stop, rest)
    | .openList =>
      let (items, ending, rest) := readItems fuel true rest
      (.list token.start items ending, rest)
    | .openObject =>
      let (members, ending, rest) := readMembers fuel true rest
      (.object token.start members ending, rest)
    | .brokenString failure | .broken failure => giveUp failure
    | .finish => giveUp (.both (token.at .eofValue))
    | .closeList | .closeObject | .comma | .colon | .stray =>
      giveUp (.both (token.at .expectedValue))

def readItems : Nat → (first : Bool) → List Token → List Item × Ending × List Token
  | 0, _, _ | _, _, [] => ([], .failed (.both ⟨.recursionLimit, {}⟩), [])
  | fuel + 1, first, token :: rest =>
    let item (tokens : List Token) : List Item × Ending × List Token :=
      let (value, rest) := Tree.read fuel tokens
      let (items, ending, rest') := readItems fuel false rest
      (.mk value (leavingList rest) :: items, ending, rest')
    let fail (failure : Failure) : List Item × Ending × List Token := ([], .failed failure, [])
    match token.kind, first with
    | .closeList, _ => ([], .closed token.stop, rest)
    | .finish, _ => fail (.both (token.at .eofList))
    | .comma, false => match rest with
      | next :: _ => match next.kind with
        | .closeList => fail ⟨next.at .trailingComma, next.at .expectedValue⟩
        | .finish => fail (.both (next.at .eofValue))
        | _ => item rest
      | [] => fail (.both (token.at .eofValue))
    | _, true => item (token :: rest)
    | _, false => fail (.both (token.at .expectedListCommaOrEnd))

def readMembers : Nat → (first : Bool) → List Token → List Member × Ending × List Token
  | 0, _, _ | _, _, [] => ([], .failed (.both ⟨.recursionLimit, {}⟩), [])
  | fuel + 1, first, token :: rest =>
    let fail (failure : Failure) : List Member × Ending × List Token := ([], .failed failure, [])
    let member (key : Except Error String) (tokens : List Token) :
        List Member × Ending × List Token :=
      let (value, rest) : Tree × List Token := match tokens with
        | colon :: rest => match colon.kind with
          | .colon => Tree.read fuel rest
          | .finish => giveUp (.both (colon.at .eofObject))
          | _ => giveUp (.both (colon.at .expectedColon))
        | [] => giveUp (.both (token.at .eofObject))
      let (members, ending, rest') := readMembers fuel false rest
      (.mk key (leavingObject tokens) value (leavingObject rest) :: members, ending, rest')
    match token.kind, first with
    | .closeObject, _ => ([], .closed token.stop, rest)
    | .finish, true =>
      let failure : Failure := .both (token.at .eofObject)
      ([], .keyless failure (.broken (.both (token.at .eofValue))), [])
    | .finish, false => fail (.both (token.at .eofObject))
    | .string key, true => member key rest
    | .brokenString failure, true => fail failure
    | _, true =>
      let (instead, _) := Tree.read fuel (token :: rest)
      ([], .keyless (.both (token.at .keyMustBeString)) instead, [])
    | .comma, false => match rest with
      | next :: rest => match next.kind with
        | .string key => member key rest
        | .brokenString failure => fail failure
        | .closeObject => fail ⟨next.at .trailingComma, next.at .keyMustBeString⟩
        | .finish => fail ⟨next.at .eofValue, next.at .eofObject⟩
        | _ => fail (.both (next.at .keyMustBeString))
      | [] => fail (.both (token.at .eofObject))
    | _, false => fail (.both (token.at .expectedObjectCommaOrEnd))

end

structure Document where
  root : Tree
  trailing : Option Error

def Document.ofText (text : String) : Document :=
  let tokens := tokens text
  let (root, rest) := Tree.read (2 * tokens.length + 1) tokens
  let trailing := rest.head?.bind fun token => match token.kind with
    | .finish => none
    | _ => some (token.at .trailingCharacters)
  { root, trailing }

mutual

def Tree.skip : Tree → Except Error Unit
  | .null _ | .boolean .. | .number .. | .string .. => .ok ()
  | .broken failure => .error failure.skip
  | .list _ items ending => do
    skipItems items
    ending.skip
  | .object _ members ending => do
    skipMembers members
    ending.skip

def skipItems : List Item → Except Error Unit
  | [] => .ok ()
  | .mk value _ :: rest => do
    value.skip
    skipItems rest

def skipMembers : List Member → Except Error Unit
  | [] => .ok ()
  | .mk _ _ value _ :: rest => do
    value.skip
    skipMembers rest

def Ending.skip : Ending → Except Error Unit
  | .closed _ => .ok ()
  | .failed failure | .keyless failure _ => .error failure.skip

end

def maxDepth : Nat := 127

def tooDeep (start : Position) : Error := ⟨.recursionLimit, ⟨start.line, start.column + 1⟩⟩

def Ending.read : Ending → Except Error Unit
  | .closed _ => .ok ()
  | .failed failure | .keyless failure _ => .error failure.read

mutual

def Tree.keep (depth : Nat) : Tree → Except Error Unit
  | .null _ | .boolean .. => .ok ()
  | .number value _ => value.map fun _ => ()
  | .string value _ => value.map fun _ => ()
  | .broken failure => .error failure.read
  | .list start items ending => match depth with
    | 0 => .error (tooDeep start)
    | depth + 1 => do
      keepItems depth items
      ending.read
  | .object start members ending => match depth with
    | 0 => .error (tooDeep start)
    | depth + 1 => do
      keepMembers depth members
      ending.read

def keepItems (depth : Nat) : List Item → Except Error Unit
  | [] => .ok ()
  | .mk value _ :: rest => do
    value.keep depth
    keepItems depth rest

def keepMembers (depth : Nat) : List Member → Except Error Unit
  | [] => .ok ()
  | .mk key _ value _ :: rest => do
    let _ ← key
    value.keep depth
    keepMembers depth rest

end

end InstanceBroker.Json
