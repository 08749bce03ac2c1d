import InstanceBroker.Duration

namespace InstanceBroker

/-- A moment: whole seconds since the epoch and nanoseconds within the second. During a leap
second the nanoseconds go on past one thousand million. -/
structure Timestamp where
  seconds : Int
  nanos : Nat
deriving DecidableEq, Repr

def Timestamp.ofNanos (nanos : Int) : Timestamp :=
  ⟨nanos / Duration.nanosPerSecond, (nanos % Duration.nanosPerSecond).toNat⟩

def Timestamp.after (origin : Timestamp) (elapsed : Duration) : Timestamp :=
  let total := origin.nanos + elapsed.nanos
  ⟨origin.seconds + (total / Duration.nanosPerSecond : Nat), total % Duration.nanosPerSecond⟩

end InstanceBroker
