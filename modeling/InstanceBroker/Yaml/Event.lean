import InstanceBroker.Yaml.Token.Stream

namespace InstanceBroker.Yaml

inductive Head
  | scalar (text : String) (style : Style) (tag : Option String)
  | list
  | map
deriving DecidableEq, Repr

inductive Event
  | node (head : Head) (anchor : Option String)
  | aliasOf (name : String)
  | closeList
  | closeMap
deriving DecidableEq, Repr

/-- What has to come next. An open collection keeps the place where it began. -/
inductive Goal
  | root
  /-- A node; a list need not be indented if it is the value of a key. -/
  | node (block : Bool) (flush : Bool)
  | entry (opened : Place)
  | flushEntry
  | key (opened : Place)
  | value (opened : Place)
  | item (first : Bool) (opened : Place)
  | pairKey | pairValue | pairEnd
  | flowKey (first : Bool) (opened : Place)
  | flowValue (opened : Place)
  | noValue (opened : Place)
deriving DecidableEq, Repr

def Goal.blockNode : Goal := .node true false
def Goal.flushNode : Goal := .node true true
def Goal.flowNode : Goal := .node false false

abbrev Located := Event × Place

structure Move where
  event : Option Located
  tokens : List Token
  goals : List Goal

def emptyScalar (place : Place) : Located := (.node (.scalar "" .plain none) none, place)

namespace Token

def is (token : Token) (kinds : List Kind) : Bool := kinds.contains token.kind

end Token

/-- Goes on with some content unless one of some tokens comes next: there it is empty. -/
def orEmpty (content : Goal) (without : List Token.Kind) (place : Place) (goal : Goal)
    (tokens : List Token) : Option Move :=
  tokens.head?.map fun token =>
    if token.is without then ⟨some (emptyScalar place), tokens, [goal]⟩
    else ⟨none, tokens, [content, goal]⟩

abbrev Handles := List (String × String)

def standardHandles : Handles := [("!", "!"), ("!!", "tag:yaml.org,2002:")]

def Handles.expand? (handles : Handles) (handle suffix : String) : Option String :=
  if handle.isEmpty then some suffix else (handles.lookup handle).map (· ++ suffix)

structure Properties where
  anchor : Option String := none
  tag : Option (String × String × Place) := none
  start : Option Place := none

def takeAnchor (properties : Properties) : List Token → Properties × List Token
  | { kind := .anchor name, start, .. } :: rest =>
    ({ properties with anchor := some name, start := properties.start.or start }, rest)
  | tokens => (properties, tokens)

def takeTag (properties : Properties) : List Token → Properties × List Token
  | { kind := .tag handle suffix, start, .. } :: rest =>
    ({ properties with
        tag := some (handle, suffix, start), start := properties.start.or start }, rest)
  | tokens => (properties, tokens)

def takeProperties (tokens : List Token) : Properties × List Token :=
  let (properties, rest) := takeAnchor {} tokens
  let (tagged, rest) := takeTag properties rest
  if properties.anchor.isSome then (tagged, rest) else takeAnchor tagged rest

def beginNode (handles : Handles) (block flush : Bool) (tokens : List Token) :
    Except Fault (Option Move) := do
  match tokens with
  | { kind := .aliasOf name, start, .. } :: rest =>
    return some ⟨some (.aliasOf name, start), rest, []⟩
  | _ =>
    let (properties, rest) := takeProperties tokens
    let token :: after := rest | return none
    let start := properties.start.getD token.start
    let tag ← match properties.tag with
      | none => pure none
      | some (handle, suffix, place) =>
        match handles.expand? handle suffix with
        | some tag => pure (if tag.isEmpty then none else some tag)
        | none => throw ⟨.undefinedHandle, place, some (.node, start)⟩
    let move (head : Head) (tokens : List Token) (goals : List Goal) : Option Move :=
      some ⟨some (.node head properties.anchor, start), tokens, goals⟩
    match token.kind with
    | .scalar text style =>
      return move (.scalar text style (if tag = some "!" then none else tag)) after []
    | .openList => return move .list after [.item true token.start]
    | .openMap => return move .map after [.flowKey true token.start]
    | kind =>
      if flush && kind = .entry then return move .list rest [.flushEntry]
      else if block && kind = .blockSequence then return move .list after [.entry token.start]
      else if block && kind = .blockMapping then return move .map after [.key token.start]
      else if properties.anchor.isSome || tag.isSome then
        return move (.scalar "" .plain tag) rest []
      else throw ⟨.noContent, token.start,
        some (if block then .blockNode else .flowNode, start)⟩

def Goal.step (handles : Handles) (goal : Goal) (tokens : List Token) :
    Except Fault (Option Move) := do
  let token :: rest := tokens | return none
  let close (event : Event) (place : Place) (tokens : List Token) : Option Move :=
    some ⟨some (event, place), tokens, []⟩
  let refuse (problem : Problem) (context : Context) (opened : Place) :
      Except Fault (Option Move) :=
    throw ⟨problem, token.start, some (context, opened)⟩
  match goal with
  | root =>
    match token.kind with
    | .version .. | .handle .. | .documentStart | .documentEnd | .finish =>
      return some ⟨some (emptyScalar token.start), tokens, []⟩
    | _ => return some ⟨none, tokens, [blockNode]⟩
  | node block flush => beginNode handles block flush tokens
  | entry opened =>
    match token.kind with
    | .entry => return orEmpty blockNode [.entry, .blockEnd] token.stop (.entry opened) rest
    | .blockEnd => return close .closeList token.start rest
    | _ => refuse .noEntry .blockSequence opened
  | flushEntry =>
    match token.kind with
    | .entry =>
      return orEmpty blockNode [.entry, .key, .value, .blockEnd] token.stop .flushEntry rest
    | _ => return close .closeList token.start tokens
  | key opened =>
    match token.kind with
    | .key => return orEmpty flushNode [.key, .value, .blockEnd] token.stop (.value opened) rest
    | .blockEnd => return close .closeMap token.start rest
    | _ => refuse .noKey .blockMapping opened
  | value opened =>
    match token.kind with
    | .value => return orEmpty flushNode [.key, .value, .blockEnd] token.stop (.key opened) rest
    | _ => return some ⟨some (emptyScalar token.start), tokens, [.key opened]⟩
  | item first opened =>
    let go (token : Token) (tokens : List Token) : Move :=
      match token.kind with
      | .key =>
        ⟨some (.node .map none, token.start), tokens.drop 1, [.pairKey, .item false opened]⟩
      | .closeList => ⟨some (.closeList, token.start), tokens.drop 1, []⟩
      | _ => ⟨none, tokens, [flowNode, .item false opened]⟩
    if first || token.kind = .closeList then return some (go token tokens)
    else if token.kind = .comma then return rest.head?.map (go · rest)
    else refuse .noListEnd .flowSequence opened
  | pairKey =>
    match token.kind with
    | .value | .comma | .closeList =>
      return some ⟨some (emptyScalar token.stop), rest, [.pairValue]⟩
    | _ => return some ⟨none, tokens, [flowNode, .pairValue]⟩
  | pairValue =>
    match token.kind with
    | .value =>
      return rest.head?.bind fun next =>
        orEmpty flowNode [.comma, .closeList] next.start .pairEnd rest
    | _ => return some ⟨some (emptyScalar token.start), tokens, [.pairEnd]⟩
  | pairEnd => return close .closeMap token.start tokens
  | flowKey first opened =>
    let go (token : Token) (tokens : List Token) : Option Move :=
      match token.kind with
      | .key =>
        (tokens.drop 1).head?.bind fun next =>
          orEmpty flowNode [.value, .comma, .closeMap] next.start (.flowValue opened)
            (tokens.drop 1)
      | .closeMap => some ⟨some (.closeMap, token.start), tokens.drop 1, []⟩
      | _ => some ⟨none, tokens, [flowNode, .noValue opened]⟩
    if first || token.kind = .closeMap then return go token tokens
    else if token.kind = .comma then return rest.head?.bind (go · rest)
    else refuse .noMapEnd .flowMapping opened
  | flowValue opened =>
    match token.kind with
    | .value =>
      return rest.head?.bind fun next =>
        orEmpty flowNode [.comma, .closeMap] next.start (.flowKey false opened) rest
    | _ => return some ⟨some (emptyScalar token.start), tokens, [.flowKey false opened]⟩
  | noValue opened =>
    return some ⟨some (emptyScalar token.start), tokens, [.flowKey false opened]⟩

structure EventStream where
  events : List Located
  rest : Except (Option Fault) (List Token)

/-- Works off the goals. Between two tokens no more than three of them come and go. -/
def EventStream.run (handles : Handles) :
    (fuel : Nat) → (goals : List Goal) → (events : List Located) → List Token → EventStream
  | _, [], events, tokens => ⟨events.reverse, .ok tokens⟩
  | 0, _, events, _ => ⟨events.reverse, .error none⟩
  | fuel + 1, goal :: goals, events, tokens =>
    match goal.step handles tokens with
    | .ok (some move) =>
      run handles fuel (move.goals ++ goals) (move.event.toList ++ events) move.tokens
    | .ok none => ⟨events.reverse, .error none⟩
    | .error fault => ⟨events.reverse, .error (some fault)⟩

def EventStream.ofGoal (handles : Handles) (goal : Goal) (tokens : List Token) : EventStream :=
  run handles (4 * tokens.length + 4) [goal] [] tokens

end InstanceBroker.Yaml
