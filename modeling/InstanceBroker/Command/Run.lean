import InstanceBroker.Command.Usage
import InstanceBroker.Config.File
import InstanceBroker.Log.Filter
import InstanceBroker.Server.Address
import InstanceBroker.Service.Simulated

namespace InstanceBroker.Command

inductive Failure
  | stopped (stop : Stop)
  | logLevel (given : String) (problem : Log.FilterProblem)
  | config (path : String) (error : ConfigError)
  | broker (fault : Fault)
  | bind (error : Server.BindError)

def report (message : String) (causes : List String) : String :=
  let lines := match causes with
    | [] => ""
    | [cause] => s!"\n\nCaused by:\n    {cause}"
    | causes =>
      "\n\nCaused by:" ++
        String.join (causes.mapIdx fun number cause => s!"\n    {number}: {cause}")
  "Error: " ++ message ++ lines ++ "\n"

namespace Failure

def exitCode : Failure → Nat
  | stopped (.help _) => 0
  | stopped (.refused _) => 2
  | _ => 1

def output : Failure → List String
  | stopped (.help detailed) => Command.help detailed
  | _ => []

def errors : Failure → String
  | stopped (.help _) => ""
  | stopped (.refused refusal) => refusal.text
  | logLevel given problem => report s!"Invalid log level '{given}': {problem.message}" []
  | config path error =>
    report s!"Failed to load config from {path}" (error.message :: error.cause?.toList)
  | broker fault => report fault.message []
  | bind error => report error.message [error.cause.message]

end Failure

structure Setup where
  options : Options
  filter : Log.Filter

/-- A filter in the environment takes precedence if it is one. -/
def chooseFilter (environment : Option String) (logLevel : String) : Except Failure Log.Filter :=
  match environment.map Log.Filter.ofText with
  | some (.ok filter) => .ok filter
  | _ => (Log.Filter.ofText logLevel).mapError (.logLevel logLevel)

def Setup.ofArguments (arguments : List String) (environment : Option String) :
    Except Failure Setup := do
  let options ← (Options.ofArguments arguments).mapError .stopped
  return { options, filter := ← chooseFilter environment options.logLevel }

def Setup.config (setup : Setup) (look : String → Config.FileContent) : Except Failure Config :=
  match setup.options.config with
  | none => .ok {}
  | some path => (Config.ofFile (look path)).mapError (.config path)

def Options.plan (options : Options) : Simulated.Plan :=
  { stepDelay := .ofMillis options.stepDelayMillis }

def Options.address (options : Options) : String := s!"{options.host}:{options.port}"

inductive Signal
  | interrupt | terminate
deriving DecidableEq, Repr

def Signal.number : Signal → Nat
  | interrupt => 2
  | terminate => 15

def origin : String := "vm_broker_daemon"
def serverOrigin : String := origin ++ "::server"
def signalsOrigin : String := origin ++ "::signals"

def starting (backend : Backend) : Log.Record :=
  ⟨.info, origin, s!"Starting VM broker with {backend.title} backend"⟩

def listening (address : String) : Log.Record :=
  ⟨.info, serverOrigin, s!"Broker daemon listening on ws://{address}"⟩

def received (signal : Signal) : Log.Record :=
  ⟨.info, signalsOrigin, s!"Received signal {signal.number}, shutting down"⟩

def closed : Log.Record := ⟨.info, serverOrigin, "Broker daemon stopped accepting connections"⟩

def stopped : Log.Record := ⟨.info, origin, "VM broker stopped"⟩

def before (options : Options) (address : String) : List Log.Record :=
  [starting options.backend, listening address]

def after (signal : Signal) : List Log.Record := [received signal, closed, stopped]

structure Result where
  exitCode : Option Nat
  output : List String
  errors : String
deriving DecidableEq, Repr

def Failure.result (failure : Failure) : Result :=
  ⟨some failure.exitCode, failure.output, failure.errors⟩

/-- A run that is sent a signal once it is seen to listen. -/
def run (arguments : List String) (environment : Option String)
    (look : String → Config.FileContent)
    (address : Options → String) (signal : Signal) : Result :=
  let outcome : Except Failure Result := do
    let setup ← Setup.ofArguments arguments environment
    let _ ← setup.config look
    let shown (records : List Log.Record) : List String :=
      (records.filter setup.filter.admits).map (·.text)
    let listens := listening (address setup.options)
    let begun := shown (before setup.options (address setup.options))
    if setup.filter.admits listens then
      return ⟨some 0, begun ++ shown (after signal), ""⟩
    else return ⟨none, begun, ""⟩
  match outcome with
  | .ok result => result
  | .error failure => failure.result

end InstanceBroker.Command
