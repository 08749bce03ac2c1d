import InstanceBroker.Json.Tree
import InstanceBroker.Json.Value

namespace InstanceBroker.Json

structure Problem where
  cause : Cause
  position : Option Position
deriving DecidableEq, Repr

def Problem.ofError (error : Error) : Problem := ⟨error.cause, some error.position⟩

/-- A problem without a place is put where the reader stood when it gave up. -/
def Problem.placedAt (position : Position) (problem : Problem) : Problem :=
  { problem with position := problem.position <|> some position }

def Problem.text (problem : Problem) : String :=
  match problem.position with
  | some position => (Error.mk problem.cause position).text
  | none => problem.cause.text

/-- Whether the value has been taken up whole before, and how many levels may still follow. -/
structure Reading where
  buffered : Bool := false
  depth : Nat := maxDepth

def Reading.deeper (reading : Reading) : Reading := { reading with depth := reading.depth - 1 }

def Reading.problem (reading : Reading) (cause : Cause) (position : Position) : Problem :=
  ⟨cause, if reading.buffered then none else some position⟩

def Reading.place (reading : Reading) (position : Position) (problem : Problem) : Problem :=
  if reading.buffered then problem else problem.placedAt position

def Reading.enter (reading : Reading) (start : Position) : Except Problem Reading :=
  if !reading.buffered && reading.depth = 0 then .error (.ofError (tooDeep start))
  else .ok reading.deeper

abbrev Result (α : Type) := Except Problem α

def strict {α : Type} : Except Error α → Result α
  | .ok value => .ok value
  | .error e => .error (.ofError e)

structure Codec (α : Type) where
  encode : α → Value
  decode : Reading → Tree → Result α

def Tree.mismatch (reading : Reading) (expected : String) : Tree → Problem
  | .null stop => reading.problem (.invalidType .null expected) stop
  | .boolean value stop => reading.problem (.invalidType (.boolean value) expected) stop
  | .number (.ok value) stop => reading.problem (.invalidType (.number value) expected) stop
  | .string (.ok value) stop => reading.problem (.invalidType (.string value) expected) stop
  | .number (.error e) _ | .string (.error e) _ => .ofError e
  | .list start .. => reading.problem (.invalidType .sequence expected) start
  | .object start .. => reading.problem (.invalidType .map expected) start
  | .broken failure => .ofError failure.read

namespace Codec

def boolean : Codec Bool where
  encode := .boolean
  decode reading
    | .boolean value _ => .ok value
    | tree => .error (tree.mismatch reading "a boolean")

def string : Codec String where
  encode := .string
  decode reading
    | .string (.ok value) _ => .ok value
    | tree => .error (tree.mismatch reading "a string")

def natural (expected : String) (most : Nat) : Codec Nat where
  encode := .natural
  decode reading
    | .number (.ok (.natural value)) stop =>
      if value.toNat ≤ most then .ok value.toNat
      else .error (reading.problem (.invalidValue (.number (.natural value)) expected) stop)
    | .number (.ok (.negative value)) stop =>
      .error (reading.problem (.invalidValue (.number (.negative value)) expected) stop)
    | tree => .error (tree.mismatch reading expected)

def map {α β : Type} (codec : Codec α) (read : α → Except Cause β) (write : β → α) :
    Codec β where
  encode value := codec.encode (write value)
  decode reading tree := do
    match read (← codec.decode reading tree) with
    | .ok value => return value
    | .error cause => throw ⟨cause, none⟩

def imap {α β : Type} (codec : Codec α) (read : α → β) (write : β → α) : Codec β :=
  codec.map (fun value => .ok (read value)) write

def uint16 : Codec UInt16 := (natural "u16" 0xffff).imap .ofNat (·.toNat)
def uint32 : Codec UInt32 := (natural "u32" 0xffffffff).imap .ofNat (·.toNat)
def uint64 : Codec UInt64 := (natural "u64" Number.maxNatural).imap .ofNat (·.toNat)

def double : Codec Binary64 where
  encode := .double
  decode reading
    | .number (.ok (.natural value)) _ => .ok (.ofNat value.toNat)
    | .number (.ok (.negative value)) _ => .ok (.ofRatio true value.natAbs 1)
    | .number (.ok (.double value)) _ => .ok value
    | tree => .error (tree.mismatch reading "f64")

def option {α : Type} (codec : Codec α) : Codec (Option α) where
  encode
    | none => .null
    | some value => codec.encode value
  decode reading
    | .null _ => .ok none
    | tree => some <$> codec.decode reading tree

def decodeItems {α : Type} (codec : Codec α) (reading : Reading) : List Item → Result (List α)
  | [] => .ok []
  | .mk tree after :: rest => do
    let value ← (codec.decode reading tree).mapError (reading.place after)
    return value :: (← decodeItems codec reading rest)

def list {α : Type} (codec : Codec α) : Codec (List α) where
  encode values := .list (values.map codec.encode)
  decode reading
    | .list start items ending => do
      let values ← decodeItems codec (← reading.enter start) items
      strict ending.read
      return values
    | tree => .error (tree.mismatch reading "a sequence")

def unit (reading : Reading) : Tree → Result Unit
  | .null _ => .ok ()
  | .object start [] (.closed stop) =>
    if reading.buffered then .ok ()
    else .error (Tree.mismatch reading "unit" (.object start [] (.closed stop)))
  | tree => .error (tree.mismatch reading "unit")

def variant {α : Type} (names : List (String × α)) (reading : Reading) : Tree → Result α
  | .string (.ok name) stop => match names.lookup name with
    | some value => .ok value
    | none => .error (reading.problem (.unknownVariant name (names.map (·.1))) stop)
  | tree => .error (tree.mismatch reading "variant identifier")

def peek (position : Position) : Position := ⟨position.line, position.column + 1⟩

/-- A name on its own, or as the only key of an object that holds null. -/
def decodeName {α : Type} (names : List (String × α)) (reading : Reading) : Tree → Result α
  | .string value stop => variant names reading (.string value stop)
  | .object start members ending => do
    if reading.buffered then
      match members with
      | [.mk (.ok key) afterKey value _] =>
        let named ← variant names reading (.string (.ok key) afterKey)
        unit reading value
        return named
      | _ => throw ⟨.invalidValue .map "map with a single key", none⟩
    else
      let _ ← reading.enter start
      match members, ending with
      | [], .closed stop => throw (.ofError ⟨.expectedValue, stop⟩)
      | [], .failed failure => throw (.ofError failure.read)
      | [], .keyless _ instead => throw (instead.mismatch reading "variant identifier")
      | .mk key afterKey value afterValue :: rest, ending =>
        let named ← variant names reading (.string (.ok (← strict key)) afterKey)
        unit reading value
        match rest, ending with
        | [], .closed _ => return named
        | [], .failed ⟨⟨.eofObject, position⟩, _⟩ =>
          throw (.ofError ⟨.eofObject, position⟩)
        | _, _ => throw (.ofError ⟨.expectedValue, afterValue⟩)
  | .broken failure => .error (.ofError failure.read)
  | .null stop => .error (other (.null stop))
  | .boolean value stop => .error (other (.boolean value stop))
  | .number value stop => .error (other (.number value stop))
  | .list start items ending => .error (other (.list start items ending))
where
  other (tree : Tree) : Problem :=
    if reading.buffered then tree.mismatch reading "string or map"
    else ⟨.expectedValue, none⟩

def names {α : Type} [DecidableEq α] (names : List (String × α)) : Codec α where
  encode value := .string (((names.find? (·.2 = value)).map (·.1)).getD "")
  decode := decodeName names

end Codec

/-- The fields of a record in their order. A field that may be absent has the value it then has. -/
inductive Layout : Type → Type 1
  | done : Layout Unit
  | field {α β : Type} (name : String) (codec : Codec α) (absent : Option α)
      (isShown : α → Bool) (rest : Layout β) : Layout (α × β)

namespace Layout

def required {α β : Type} (name : String) (codec : Codec α) (rest : Layout β) :
    Layout (α × β) :=
  .field name codec none (fun _ => true) rest

def defaulting {α β : Type} (name : String) (codec : Codec α) (absent : α) (rest : Layout β) :
    Layout (α × β) :=
  .field name codec (some absent) (fun _ => true) rest

def names {α : Type} : Layout α → List String
  | .done => []
  | .field name _ _ _ rest => name :: rest.names

def members {α : Type} : Layout α → α → List (String × Value)
  | .done, () => []
  | .field name codec _ isShown rest, (value, others) =>
    if isShown value then (name, codec.encode value) :: rest.members others
    else rest.members others

def check? {α : Type} (reading : Reading) (key : String) :
    Layout α → Option (Tree → Result Unit)
  | .done => none
  | .field name codec _ _ rest =>
    if key = name then some fun tree => (codec.decode reading tree).map fun _ => ()
    else rest.check? reading key

def scan {α : Type} (layout : Layout α) (reading : Reading) (seen : List String) :
    List Member → Result (List (String × Tree))
  | [] => .ok []
  | .mk key afterKey value afterValue :: rest => do
    let key ← strict key
    match layout.check? reading key with
    | some check =>
      if seen.contains key then throw (reading.problem (.duplicateField key) afterKey)
      (check value).mapError (reading.place afterValue)
      return (key, value) :: (← layout.scan reading (key :: seen) rest)
    | none =>
      if !reading.buffered then strict value.skip
      layout.scan reading seen rest

def scanItems {α : Type} (layout : Layout α) (reading : Reading) :
    List String → List Item → Result (List (String × Tree))
  | name :: names, .mk value after :: rest => do
    if let some check := layout.check? reading name then
      (check value).mapError (reading.place after)
    return (name, value) :: (← layout.scanItems reading names rest)
  | _, _ => .ok []

def build {α : Type} (reading : Reading) (missing : String → Problem)
    (row : List (String × Tree)) : Layout α → Result α
  | .done => .ok ()
  | .field name codec absent _ rest => do
    let value ← match row.lookup name, absent with
      | some tree, _ => codec.decode reading tree
      | none, some value => pure value
      | none, none => throw (missing name)
    return (value, ← rest.build reading missing row)

def counted (n : Nat) : String := if n = 1 then "1 element" else s!"{n} elements"

def buildMembers {α : Type} (layout : Layout α) (reading : Reading) (members : List Member)
    (ending : Ending) : Result α := do
  let row ← layout.scan reading [] members
  if !reading.buffered then strict ending.read
  let stop := match ending with
    | .closed stop => stop
    | _ => {}
  layout.build reading (fun name => reading.problem (.missingField name) stop) row

def overlong : Error → Error
  | ⟨.expectedListCommaOrEnd, position⟩ | ⟨.eofValue, position⟩ =>
    ⟨.trailingCharacters, position⟩
  | error => error

def buildItems {α : Type} (layout : Layout α) (reading : Reading) (expected : String)
    (items : List Item) (ending : Ending) : Result α := do
  let names := layout.names
  let row ← layout.scanItems reading names items
  if items.length < names.length && !reading.buffered then strict ending.read
  let stop := match ending with
    | .closed stop => stop
    | _ => {}
  let missing (name : String) : Problem :=
    let index := (names.idxOf? name).getD 0
    reading.problem (.invalidLength index (expected ++ " with " ++ counted names.length)) stop
  let value ← layout.build reading missing row
  if reading.buffered then
    if names.length < items.length then
      throw ⟨.invalidLength items.length (counted names.length ++ " in sequence"), none⟩
  else if names.length < items.length then
    let after := ((items.drop (names.length - 1)).head?.map (·.after)).getD {}
    throw (.ofError ⟨.trailingCharacters, Codec.peek after⟩)
  else strict (ending.read.mapError overlong)
  return value

/-- An object with these fields, or a list of their values in order. -/
def decode {α : Type} (layout : Layout α) (expected : String) (reading : Reading) :
    Tree → Result α
  | .object start members ending => do
    layout.buildMembers (← reading.enter start) members ending
  | .list start items ending => do
    layout.buildItems (← reading.enter start) expected items ending
  | tree => .error (tree.mismatch reading expected)

def codec {α β : Type} (layout : Layout α) (expected : String) (make : α → β)
    (parts : β → α) :
    Codec β where
  encode value := .object (layout.members (parts value))
  decode reading tree := make <$> layout.decode expected reading tree

end Layout

structure Variant (α : Type) where
  name : String
  members? : α → Option (List (String × Value))
  /-- Reads what stands beside the tag: members, or the elements behind it. -/
  ofMembers : List Member → Result α
  ofItems : List Item → Result α

namespace Variant

def buffer : Reading := { buffered := true }

def record {α β : Type} (name expected : String) (layout : Layout β) (make : β → α)
    (parts? : α → Option β) : Variant α where
  name
  members? value := (parts? value).map layout.members
  ofMembers members := make <$> layout.buildMembers buffer members (.closed {})
  ofItems items := make <$> layout.buildItems buffer expected items (.closed {})

def plain {α : Type} [DecidableEq α] (name : String) (value : α) : Variant α where
  name
  members? other := if other = value then some [] else none
  ofMembers _ := .ok value
  ofItems
    | [] => .ok value
    | items => .error ⟨.invalidLength items.length "0 elements in sequence", none⟩

end Variant

/-- A value whose form is told by a member `type`, or by the first element of a list. -/
structure Tagged (α : Type) where
  name : String
  variants : List (Variant α)

namespace Tagged

def tagName : String := "type"

def encode {α : Type} (tagged : Tagged α) (value : α) : Value :=
  match tagged.variants.findSome? fun variant =>
      (variant.members? value).map fun members => (variant.name, members) with
  | some (name, members) => .object ((tagName, .string name) :: members)
  | none => .null

def tag {α : Type} (tagged : Tagged α) (reading : Reading) (tree : Tree) : Result (Variant α) :=
  Codec.variant (tagged.variants.map fun variant => (variant.name, variant)) reading tree

def split {α : Type} (tagged : Tagged α) (reading : Reading) (found : Option (Variant α)) :
    List Member → Result (Option (Variant α) × List Member)
  | [] => .ok (found, [])
  | .mk key afterKey value afterValue :: rest => do
    let name ← strict key
    if name = tagName then
      if found.isSome then throw (reading.problem (.duplicateField tagName) afterKey)
      let variant ← tagged.tag reading value
      tagged.split reading (some variant) rest
    else
      strict (value.keep reading.depth)
      let (found, others) ← tagged.split reading found rest
      return (found, .mk key afterKey value afterValue :: others)

def decode {α : Type} (tagged : Tagged α) (reading : Reading) : Tree → Result α
  | .object start members ending => do
    let (found, others) ← tagged.split (← reading.enter start) none members
    strict ending.read
    match found, ending with
    | some variant, _ => variant.ofMembers others
    | none, .closed stop => throw (reading.problem (.missingField tagName) stop)
    | none, _ => throw ⟨.missingField tagName, none⟩
  | .list start items ending => do
    let inner ← reading.enter start
    match items with
    | [] =>
      strict ending.read
      let stop := match ending with
        | .closed stop => stop
        | _ => {}
      throw (reading.problem (.missingField tagName) stop)
    | .mk first _ :: rest =>
      let variant ← tagged.tag inner first
      strict (keepItems inner.depth rest)
      strict ending.read
      variant.ofItems rest
  | tree => .error (tree.mismatch reading ("internally tagged enum " ++ tagged.name))

def codec {α : Type} (tagged : Tagged α) : Codec α := ⟨tagged.encode, tagged.decode⟩

end Tagged

def Codec.read {α : Type} (codec : Codec α) (text : String) : Result α := do
  let document := Document.ofText text
  let value ← codec.decode {} document.root
  match document.trailing with
  | some error => throw (.ofError error)
  | none => return value

def Codec.write {α : Type} (codec : Codec α) (value : α) : String := (codec.encode value).text

/-- The number that a well-formed object holds under a name, the last time it is there. -/
def naturalMember? (name text : String) : Option UInt64 :=
  let document := Document.ofText text
  match document.root.keep maxDepth, document.trailing, document.root with
  | .ok (), none, .object _ members _ =>
    let named := members.filter fun member => match member.key with
      | .ok key => key = name
      | .error _ => false
    match named.getLast? with
    | some (.mk _ _ (.number (.ok (.natural value)) _) _) => some value
    | _ => none
  | _, _, _ => none

end InstanceBroker.Json
