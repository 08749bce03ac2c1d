import InstanceBroker.Yaml.Error
import InstanceBroker.Yaml.Event

namespace InstanceBroker.Yaml

inductive Piece
  | node (head : Head)
  | repeated (head : Head)
  | close
deriving DecidableEq, Repr

structure Document where
  /-- The parts with their places; a repeated node has the place of the first one. -/
  pieces : List (Piece × Place)
  error : Option Error
  followed : Bool

namespace Document

def broken (error : Option Error) : Document := ⟨[], error, false⟩

def empty : Document := broken none

abbrev Anchors := List (String × Head × Place)

def resolve (anchors : Anchors) : List Located → List (Piece × Place) × Option Place
  | [] => ([], none)
  | (event, place) :: rest =>
    let onto (piece : Piece) (place : Place) (known : List (Piece × Place) × Option Place) :=
      ((piece, place) :: known.1, known.2)
    match event with
    | .node head (some name) =>
      onto (.node head) place (resolve ((name, head, place) :: anchors) rest)
    | .node head none => onto (.node head) place (resolve anchors rest)
    | .closeList | .closeMap => onto .close place (resolve anchors rest)
    | .aliasOf name =>
      match anchors.lookup name with
      | some (head, target) => onto (.repeated head) target (resolve anchors rest)
      | none => ([], some place)

structure Directives where
  version : Option (Nat × Nat) := none
  handles : Handles := []

def isSupported (major minor : Nat) : Bool := major = 1 && (minor = 1 || minor = 2)

def directives (known : Directives) : List Token → Except Fault (Directives × List Token)
  | [] => .ok (known, [])
  | token :: rest =>
    match token.kind with
    | .version major minor =>
      if known.version.isSome then .error ⟨.duplicateVersion, token.start, none⟩
      else if !isSupported major minor then .error ⟨.unsupportedVersion, token.start, none⟩
      else directives { known with version := some (major, minor) } rest
    | .handle name expansion =>
      if (known.handles.lookup name).isSome then .error ⟨.duplicateHandle, token.start, none⟩
      else directives { known with handles := (name, expansion) :: known.handles } rest
    | _ => .ok (known, token :: rest)

def isFollowed : List Token → Bool
  | [] => true
  | token :: rest =>
    match token.kind with
    | .documentEnd => isFollowed rest
    | .finish => false
    | _ => true

def ofEvents (stream : EventStream) (fault : Option Fault) : Document :=
  let (pieces, unknown) := resolve [] stream.events
  match unknown, stream.rest with
  | some place, _ => ⟨pieces, some (.unknownAnchor place), false⟩
  | none, .error cause => ⟨pieces, (cause.or fault).map .malformed, false⟩
  | none, .ok [] => ⟨pieces, fault.map .malformed, false⟩
  | none, .ok rest => ⟨pieces, none, isFollowed rest⟩

def ofTokens (stream : TokenStream) : Document :=
  match stream.tokens with
  | [] => broken (stream.fault.map .malformed)
  | token :: _ =>
    match token.kind with
    | .finish => empty
    | .version .. | .handle .. | .documentStart =>
      match directives {} stream.tokens with
      | .error fault => broken (some (.malformed fault))
      | .ok (_, []) => broken (stream.fault.map .malformed)
      | .ok (known, token :: rest) =>
        if token.kind ≠ .documentStart then
          broken (some (.malformed ⟨.noDocumentStart, token.start, none⟩))
        else ofEvents (.ofGoal (known.handles ++ standardHandles) .root rest) stream.fault
    | _ => ofEvents (.ofGoal standardHandles .blockNode stream.tokens) stream.fault

def mayBeWritten (c : Char) : Bool :=
  let n := c.toNat
  n = 0x09 || n = 0x0a || n = 0x0d || (0x20 ≤ n && n ≤ 0x7e) || n = 0x85 ||
    (0xa0 ≤ n && n ≤ 0xfffd) || 0x10000 ≤ n

/-- The bytes before the first character that may not be written. -/
def controlOffset? (offset : Nat) : List Char → Option Nat
  | [] => none
  | c :: rest => if mayBeWritten c then controlOffset? (offset + c.utf8Size) rest else some offset

def ofText (text : String) : Document :=
  match controlOffset? 0 text.toList with
  | some offset => broken (some (.control offset))
  | none => ofTokens (.ofText text.toList)

end Document

end InstanceBroker.Yaml
