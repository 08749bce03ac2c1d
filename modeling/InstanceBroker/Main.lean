import InstanceBroker.Command.Run
import InstanceBroker.Server
import Std.Time.DateTime.Timestamp

namespace InstanceBroker.Main

open Command

def look (path : String) : IO Config.FileContent := do
  try return .bytes (← IO.FS.readBinFile path)
  catch
    | .noFileOrDirectory .. => return .missing
    | _ => return .directory

def now : IO Timestamp := do
  return .ofNanos (← Std.Time.Timestamp.now).toNanosecondsSinceUnixEpoch.val

def log (filter : Log.Filter) (record : Log.Record) : IO Unit := do
  if filter.admits record then IO.eprintln record.text

partial def serve (service : Service Catalogue Simulated.Phase)
    (state : Server.State Catalogue Simulated.Phase) (clock : Nat) : IO Unit := do
  let line ← (← IO.getStdin).getLine
  if line.isEmpty then return
  let time ← IO.monoMsNow
  let state := state.elapse service (time - clock)
  let content := String.ofList (line.toList.filter (· ≠ '\n'))
  let state := state.receive service (.text content)
  for reply in state.inbox do
    IO.println (Reply.codec.write reply)
  serve service { state with inbox := [] } time

/-- Runs until the input ends, which counts as a request to terminate. -/
def listen (setup : Setup) (config : Config) : IO (Except Failure Unit) := do
  let service := setup.options.plan.service
  log setup.filter (starting setup.options.backend)
  match Server.start service config (← now) {} with
  | .error fault => return .error (.broker fault)
  | .ok state =>
    log setup.filter (listening setup.options.address)
    serve service state (← IO.monoMsNow)
    for record in after .terminate do
      log setup.filter record
    return .ok ()

def attempt (arguments : List String) : IO (Except Failure Unit) := do
  match Setup.ofArguments arguments (← IO.getEnv "RUST_LOG") with
  | .error failure => return .error failure
  | .ok setup =>
    let found ← setup.options.config.mapM look
    match setup.config fun _ => found.getD .missing with
    | .error failure => return .error failure
    | .ok config => listen setup config

end InstanceBroker.Main

def main (arguments : List String) : IO UInt32 := do
  match ← InstanceBroker.Main.attempt arguments with
  | .ok () => return 0
  | .error failure =>
    for line in failure.output do
      IO.println line
    IO.eprint failure.errors
    return failure.exitCode.toUInt32
