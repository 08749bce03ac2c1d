import InstanceBroker.Text.Radix
import InstanceBroker.Text.Similarity

namespace InstanceBroker.Command

inductive Backend
  | simulated
deriving DecidableEq, Repr

namespace Backend

def all : List Backend := [simulated]

def keyword : Backend → String
  | simulated => "simulated"

def title : Backend → String
  | simulated => "Simulated"

def purpose : Backend → String
  | simulated => "In-memory instances, for development and testing"

end Backend

structure Options where
  host : String := "127.0.0.1"
  port : Nat := 9101
  config : Option String := none
  logLevel : String := "info"
  backend : Backend := .simulated
  stepDelayMillis : Nat := 500
deriving DecidableEq, Repr

inductive Setting
  | host | port | config | logLevel | backend | stepDelay
deriving DecidableEq, Repr

namespace Setting

def all : List Setting := [host, port, config, logLevel, backend, stepDelay]

def long : Setting → String
  | host => "host"
  | port => "port"
  | config => "config"
  | logLevel => "log-level"
  | backend => "backend"
  | stepDelay => "sim-step-delay-ms"

def short? : Setting → Option Char
  | port => some 'p'
  | config => some 'c'
  | _ => none

def placeholder (setting : Setting) : String :=
  String.ofList ((setting.long.toList.map fun c => if c = '-' then '_' else c).map Char.toUpper)

def purpose : Setting → String
  | host => "Address to listen on"
  | port => "Port to listen on"
  | config => "Broker configuration file (YAML)"
  | logLevel => "Log level, used when RUST_LOG is not set"
  | backend => "Lifecycle backend"
  | stepDelay => "Delay between simulated creation steps, in milliseconds"

def standard? : Setting → Option String
  | host => some ({} : Options).host
  | port => some (toString ({} : Options).port)
  | config => none
  | logLevel => some ({} : Options).logLevel
  | backend => some ({} : Options).backend.keyword
  | stepDelay => some (toString ({} : Options).stepDelayMillis)

def choices : Setting → List String
  | backend => Backend.all.map (·.keyword)
  | _ => []

def shown (setting : Setting) : String :=
  "--" ++ setting.long ++ " <" ++ setting.placeholder ++ ">"

end Setting

inductive NumberProblem
  | empty | notDigit | tooLarge | tooSmall
deriving DecidableEq, Repr

def NumberProblem.message : NumberProblem → String
  | empty => "cannot parse integer from empty string"
  | notDigit => "invalid digit found in string"
  | tooLarge => "number too large to fit in target type"
  | tooSmall => "number too small to fit in target type"

def magnitude (limit : Nat) (beyond : NumberProblem) (value : Nat) :
    List Char → Except NumberProblem Nat
  | [] => .ok value
  | c :: rest =>
    match Text.number? 10 [c] with
    | none => .error .notDigit
    | some digit =>
      if limit < value * 10 + digit then .error beyond
      else magnitude limit beyond (value * 10 + digit) rest

def integer (signed : Bool) (text : String) : Except NumberProblem Int :=
  let limit := if signed then pow2 63 - 1 else pow2 64 - 1
  match text.toList with
  | [] => .error .empty
  | [c] => (magnitude limit .tooLarge 0 [c]).map Int.ofNat
  | '+' :: rest => (magnitude limit .tooLarge 0 rest).map Int.ofNat
  | c :: rest =>
    if signed && c = '-' then (magnitude (pow2 63) .tooSmall 0 rest).map fun n => -(n : Int)
    else (magnitude limit .tooLarge 0 (c :: rest)).map Int.ofNat

inductive ValueProblem
  | number (problem : NumberProblem)
  | outOfRange (first last : Int)
  | notChosen
deriving DecidableEq, Repr

def highestPort : Nat := 65535

inductive Flag
  | setting (setting : Setting)
  | help
deriving DecidableEq, Repr

namespace Flag

def all : List Flag := Setting.all.map setting ++ [help]

def long : Flag → String
  | setting s => s.long
  | help => "help"

def shown : Flag → String
  | setting s => s.shown
  | help => "--help"

def ofLong? (name : String) : Option Flag := all.find? (·.long = name)

end Flag

inductive Refusal
  | unexpected (argument : String) (similar : Option Flag) (used : List Flag)
  | needless (flag : Flag) (value : String) (used : List Flag)
  | missing (setting : Setting)
  | repeated (setting : Setting)
  | invalid (setting : Setting) (value : String) (problem : ValueProblem)
deriving DecidableEq, Repr

inductive Stop
  | help (detailed : Bool)
  | refused (cause : Refusal)
deriving DecidableEq, Repr

structure Reading where
  options : Options := {}
  given : List Setting := []
  pending : Option (Setting × Option String) := none
  literal : Bool := false

namespace Reading

def put (options : Options) (value : String) : Setting → Except Refusal Options
  | .host => .ok { options with host := value }
  | .logLevel => .ok { options with logLevel := value }
  | .config =>
    if value.isEmpty then .error (.missing .config) else .ok { options with config := some value }
  | .port =>
    match integer true value with
    | .error problem => .error (.invalid .port value (.number problem))
    | .ok number =>
      if number < 0 ∨ highestPort < number then
        .error (.invalid .port (toString number) (.outOfRange 0 highestPort))
      else .ok { options with port := number.toNat }
  | .stepDelay =>
    match integer false value with
    | .error problem => .error (.invalid .stepDelay value (.number problem))
    | .ok number => .ok { options with stepDelayMillis := number.toNat }
  | .backend =>
    match Backend.all.find? (·.keyword = value) with
    | some backend => .ok { options with backend }
    | none =>
      if value.isEmpty then .error (.missing .backend)
      else .error (.invalid .backend value .notChosen)

/-- Takes an option with its value, which may be wanting. An option counts as given even if its
value is refused, but no more if it is given again. -/
def assign (r : Reading) (setting : Setting) : Option String → Reading × Option Refusal
  | none => (r, some (.missing setting))
  | some value =>
    if setting ∈ r.given then
      ({ r with given := r.given.erase setting }, some (.repeated setting))
    else
      let r := { r with given := r.given ++ [setting] }
      match put r.options value setting with
      | .ok options => ({ r with options }, none)
      | .error refusal => (r, some refusal)

def settle (r : Reading) : Reading × Option Refusal :=
  match r.pending with
  | none => (r, none)
  | some (setting, value) => { r with pending := none }.assign setting value

def settled (r : Reading) : Except Stop Reading :=
  match r.settle with
  | (r, none) => .ok r
  | (_, some refusal) => .error (.refused refusal)

/-- The options in use when an argument is refused; what is pending still counts. -/
def used (r : Reading) : List Flag := r.settle.1.given.map .setting

def flagHelp (r : Reading) (detailed : Bool) : Except Stop Reading := do
  let _ ← r.settled
  throw (.help detailed)

def take (r : Reading) (setting : Setting) (value : Option String) : Except Stop Reading := do
  let r ← r.settled
  match value with
  | none => return { r with pending := some (setting, none) }
  | some value => Reading.settled { r with pending := some (setting, some value) }

def takeLong (r : Reading) (text : List Char) : Except Stop Reading :=
  let letters := text.takeWhile (· ≠ '=')
  let name := String.ofList letters
  let value? :=
    if letters.length < text.length then some (String.ofList (text.drop (letters.length + 1)))
    else none
  match Flag.ofLong? name, value? with
  | some (.setting setting), _ => r.take setting value?
  | some .help, none => r.flagHelp true
  | some .help, some value =>
    .error (.refused (.needless .help value (r.given.map .setting ++ [.help])))
  | none, _ =>
    let similar := (Text.mostSimilar? name (Flag.all.map (·.long))).bind Flag.ofLong?
    let used := match similar with
      | some flag => if flag ∈ r.used then r.used else r.used ++ [flag]
      | none => r.used
    .error (.refused (.unexpected ("--" ++ name) similar used))

def takeShort (r : Reading) : List Char → Except Stop Reading
  | [] => .ok r
  | 'h' :: _ => r.flagHelp false
  | c :: rest =>
    match Setting.all.find? (·.short? = some c), rest with
    | some setting, [] => r.take setting none
    | some setting, '=' :: value => r.take setting (some (String.ofList value))
    | some setting, value => r.take setting (some (String.ofList value))
    | none, _ => .error (.refused (.unexpected ("-" ++ c.toString) none []))

def takeOne (r : Reading) (argument : String) : Except Stop Reading :=
  let stray : Except Stop Reading := .error (.refused (.unexpected argument none []))
  if r.literal then stray
  else match argument.toList with
    | ['-', '-'] => .ok { r with literal := true }
    | '-' :: '-' :: rest => r.takeLong rest
    | '-' :: c :: rest => r.takeShort (c :: rest)
    | _ => match r.pending with
      | some (setting, none) => .ok { r with pending := some (setting, some argument) }
      | _ => stray

end Reading

def Options.ofArguments (arguments : List String) : Except Stop Options := do
  return (← (← arguments.foldlM Reading.takeOne {}).settled).options

end InstanceBroker.Command
