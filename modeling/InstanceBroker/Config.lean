import InstanceBroker.Duration
import InstanceBroker.Yaml.Error

namespace InstanceBroker

structure Config where
  actionQueueCapacity : Nat := 64
  /-- How many values of one operation may wait to be read. -/
  resultBuffer : Nat := 1
  /-- The age from which an abandoned transaction is dropped; none keeps it. -/
  transactionTtl : Option Duration := none
  sweepInterval : Duration := .ofSeconds 60
deriving DecidableEq, Repr

inductive Config.Violation
  | noActionQueue | noResultBuffer | noSweepInterval
deriving DecidableEq, Repr

def Config.Violation.message : Config.Violation → String
  | noActionQueue => "action_queue_capacity must be at least 1"
  | noResultBuffer => "result_buffer must be at least 1"
  | noSweepInterval => "sweep_interval must be non-zero when transaction_ttl is set"

def Config.violation? (config : Config) : Option Config.Violation :=
  if config.actionQueueCapacity = 0 then some .noActionQueue
  else if config.resultBuffer = 0 then some .noResultBuffer
  else if config.transactionTtl.isSome ∧ config.sweepInterval.isZero then some .noSweepInterval
  else none

inductive FileError
  | missing | directory | notText
deriving DecidableEq, Repr

def FileError.message : FileError → String
  | missing => "No such file or directory (os error 2)"
  | directory => "Is a directory (os error 21)"
  | notText => "stream did not contain valid UTF-8"

inductive ConfigError
  | unreadable (cause : FileError)
  | malformed (cause : Yaml.Error)
  | invalid (reason : String)
deriving DecidableEq, Repr

namespace ConfigError

def cause? : ConfigError → Option String
  | unreadable cause => some cause.message
  | malformed cause => some cause.text
  | invalid _ => none

def message : ConfigError → String
  | unreadable cause => s!"Failed to read config file: {cause.message}"
  | malformed cause => s!"Failed to parse YAML: {cause.text}"
  | invalid reason => s!"Invalid configuration: {reason}"

end ConfigError

def Config.validate (config : Config) : Except ConfigError Config :=
  match config.violation? with
  | some violation => .error (.invalid violation.message)
  | none => .ok config

theorem Config.violation?_eq_none_iff (config : Config) :
    config.violation? = none ↔ 0 < config.actionQueueCapacity ∧ 0 < config.resultBuffer ∧
      (config.transactionTtl.isSome → config.sweepInterval.isZero = false) := by
  simp only [Config.violation?]
  split
  · simp; omega
  · split
    · simp; omega
    · split <;> simp_all
      omega

theorem Config.usable_of_validate {config : Config} (valid : config.validate = .ok config) :
    0 < config.actionQueueCapacity ∧ 0 < config.resultBuffer := by
  unfold validate at valid
  split at valid
  · cases valid
  · rename_i unbroken
    obtain ⟨roomy, buffered, _⟩ := config.violation?_eq_none_iff.mp unbroken
    exact ⟨roomy, buffered⟩

end InstanceBroker
