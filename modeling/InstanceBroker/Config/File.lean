import InstanceBroker.Config
import InstanceBroker.Duration.Seconds
import InstanceBroker.Yaml.Document

namespace InstanceBroker

namespace Yaml

def nullTag : String := "tag:yaml.org,2002:null"
def booleanTag : String := "tag:yaml.org,2002:bool"
def integerTag : String := "tag:yaml.org,2002:int"
def doubleTag : String := "tag:yaml.org,2002:float"

def unexpectedScalar (text : String) (style : Style) (tag : Option String) (expected : String) :
    Mismatch :=
  let found (value : Value) : Mismatch := .invalidType (.scalar value) expected
  let asPlain := if style = .plain then found (.ofPlain text) else found (.text text)
  match tag with
  | none => asPlain
  | some tag =>
    if tag = booleanTag then
      ((boolean? text).map (found ∘ .boolean)).getD (.invalidText text "a boolean")
    else if tag = integerTag then
      ((integer? text.toList).map (found ∘ .integer)).getD (.invalidText text "an integer")
    else if tag = doubleTag then
      ((double? text).map (found ∘ .double)).getD (.invalidText text "a float")
    else if tag = nullTag then
      if isNull text then found .null else .invalidText text "null"
    else if tag.startsWith "!" then asPlain
    else found (.text text)

def Head.unexpected (expected : String) : Head → Mismatch
  | .scalar text style tag => unexpectedScalar text style tag expected
  | .list => .invalidType .list expected
  | .map => .invalidType .map expected

structure NumberKind (α : Type) where
  name : String
  tag : String
  read? : String → Option α

def size : NumberKind Nat :=
  ⟨"usize", integerTag, fun text => (natural? text.toList).filter (· < pow2 64)⟩

def double : NumberKind Binary64 := ⟨"f64", doubleTag, double?⟩

def Head.number {α : Type} (kind : NumberKind α) (head : Head) : Except Mismatch α :=
  let number? := match head with
    | .scalar text style tag =>
      if style = .plain || (style = .literal && tag = some kind.tag) then kind.read? text else none
    | _ => none
  match number? with
  | some value => .ok value
  | none => .error (head.unexpected kind.name)

def Head.isNothing : Head → Except Mismatch Bool
  | .scalar text .plain (some tag) =>
    if tag ≠ nullTag then .ok false
    else if isNull text then .ok true
    else .error (.invalidText text "null")
  | .scalar text .plain none => .ok (text.isEmpty || isNull text)
  | _ => .ok false

/-- The pieces behind a node of which nothing is wanted, given how many collections are open. -/
def skipNode : Nat → List (Piece × Place) → Option (List (Piece × Place))
  | _, [] => none
  | opened, (piece, _) :: rest =>
    match piece, opened with
    | .node .list, _ | .node .map, _ => skipNode (opened + 1) rest
    | .close, 0 | .close, 1 => some rest
    | .close, opened + 1 => skipNode opened rest
    | _, 0 => some rest
    | _, opened => skipNode opened rest

theorem skipNode_length {opened : Nat} {pieces rest : List (Piece × Place)}
    (skipped : skipNode opened pieces = some rest) : rest.length < pieces.length := by
  fun_induction skipNode opened pieces <;> simp_all <;> omega

end Yaml

namespace Config

open Yaml (Piece Place Head Mismatch Document)

inductive Field
  | actionQueueCapacity | resultBuffer | transactionTtl | sweepInterval
deriving DecidableEq, Repr

namespace Field

def name : Field → String
  | actionQueueCapacity => "action_queue_capacity"
  | resultBuffer => "result_buffer"
  | transactionTtl => "transaction_ttl"
  | sweepInterval => "sweep_interval"

def all : List Field := [actionQueueCapacity, resultBuffer, transactionTtl, sweepInterval]

def ofName? (name : String) : Option Field := all.find? (·.name = name)

end Field

inductive ValueFault
  | mismatch (cause : Mismatch)
  | meaning (cause : Mismatch)

def readNumber {α : Type} (kind : Yaml.NumberKind α) (head : Head) : Except ValueFault α :=
  (head.number kind).mapError .mismatch

def readDuration (head : Head) : Except ValueFault Duration := do
  (Duration.ofSeconds? (← readNumber Yaml.double head)).mapError
    fun e => .meaning (.refused e.message)

def setField (config : Config) (head : Head) : Field → Except ValueFault Config
  | .actionQueueCapacity =>
    return { config with actionQueueCapacity := ← readNumber Yaml.size head }
  | .resultBuffer => return { config with resultBuffer := ← readNumber Yaml.size head }
  | .transactionTtl => do
    if ← head.isNothing.mapError .meaning then return { config with transactionTtl := none }
    else return { config with transactionTtl := some (← readDuration head) }
  | .sweepInterval => return { config with sweepInterval := ← readDuration head }

def nodeOf : Piece → Option Head
  | .node head | .repeated head => some head
  | .close => none

def keyOf (place : Place) : Piece → Except Yaml.Error (String × String)
  | .node (.scalar text _ _) => .ok (text, text)
  | .repeated (.scalar text _ _) => .ok (text, "?")
  | .node head | .repeated head =>
    .error (.mismatch (head.unexpected "field identifier") none place)
  | .close => .ok ("", "")

/-- Sets the fields of a map that begins at a place. Of a broken document the pieces are read as
far as they go; `ending` is what is wrong behind them. -/
def readFields (start : Place) (ending : Yaml.Error) (config : Config) (seen : List Field) :
    List (Piece × Place) → Except Yaml.Error Config
  | [] => .error ending
  | (.close, _) :: _ => .ok config
  | (piece, place) :: rest => do
    let (name, shown) ← keyOf place piece
    match Field.ofName? name with
    | none =>
      match h : Yaml.skipNode 0 rest with
      | some after =>
        have := Yaml.skipNode_length h
        readFields start ending config seen after
      | none => throw ending
    | some field =>
      if field ∈ seen then throw (.mismatch (.duplicateField field.name) none start)
      match rest with
      | [] => throw ending
      | (piece, place) :: rest =>
        let some head := nodeOf piece | throw ending
        match config.setField head field with
        | .ok config => readFields start ending config (field :: seen) rest
        | .error (.mismatch cause) => throw (.mismatch cause (some shown) place)
        | .error (.meaning cause) => throw (.mismatch cause none start)
termination_by pieces => pieces.length

def expectedMap : String := "struct BrokerConfig"

def ofDocument (document : Document) : Except Yaml.Error Config := do
  let ending := document.error.getD .severalDocuments
  let config ← match document.pieces with
    | [] => if document.error.isSome then throw ending else pure {}
    | (piece, place) :: rest =>
      match nodeOf piece with
      | some .map => readFields place ending {} [] rest
      | some (.scalar "" .plain _) | none => pure {}
      | some head => throw (.mismatch (head.unexpected expectedMap) none place)
  match document.error with
  | some error => throw error
  | none => if document.followed then throw .severalDocuments else return config

def ofYaml (text : String) : Except ConfigError Config := do
  (← (ofDocument (.ofText text)).mapError .malformed).validate

inductive FileContent
  | missing
  | directory
  | bytes (content : ByteArray)

def ofFile : FileContent → Except ConfigError Config
  | .missing => .error (.unreadable .missing)
  | .directory => .error (.unreadable .directory)
  | .bytes content =>
    match String.fromUTF8? content with
    | some text => ofYaml text
    | none => .error (.unreadable .notText)

end Config

end InstanceBroker
