namespace InstanceBroker

structure Duration where
  nanos : Nat
deriving DecidableEq, Repr

namespace Duration

def nanosPerSecond : Nat := 1000000000
def nanosPerMilli : Nat := 1000000

def zero : Duration := ⟨0⟩

def ofMillis (millis : Nat) : Duration := ⟨millis * nanosPerMilli⟩

def ofSeconds (seconds : Nat) : Duration := ⟨seconds * nanosPerSecond⟩

def ofParts (seconds nanos : Nat) : Duration := ⟨seconds * nanosPerSecond + nanos⟩

def wholeSeconds (d : Duration) : Nat := d.nanos / nanosPerSecond

def subsecNanos (d : Duration) : Nat := d.nanos % nanosPerSecond

def isZero (d : Duration) : Bool := d.nanos == 0

theorem ofParts_wholeSeconds_subsecNanos (d : Duration) :
    ofParts d.wholeSeconds d.subsecNanos = d := by
  cases d with
  | mk n => simp [ofParts, wholeSeconds, subsecNanos, Nat.div_add_mod']

end Duration

end InstanceBroker
