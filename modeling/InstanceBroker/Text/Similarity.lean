import InstanceBroker.Decimal.Binary64

namespace InstanceBroker.Text

def pick (c : Char) (first last index : Nat) : List (Char × Bool) → Option (List (Char × Bool))
  | [] => none
  | (d, taken) :: rest =>
    if last < index then none
    else if first ≤ index && c = d && !taken then some ((d, true) :: rest)
    else (pick c first last (index + 1) rest).map ((d, taken) :: ·)

def shared (window index : Nat) :
    List Char → List (Char × Bool) → List Char × List (Char × Bool)
  | [], marked => ([], marked)
  | c :: rest, marked =>
    match pick c (index - window) (index + window) 0 marked with
    | some marked =>
      let (found, marked) := shared window (index + 1) rest marked
      (c :: found, marked)
    | none => shared window (index + 1) rest marked

def similarity (word other : String) : Binary64 :=
  let word := word.toList
  let other := other.toList
  if word.isEmpty && other.isEmpty then .ofNat 1
  else
    let window := max word.length other.length / 2 - 1
    let (found, marked) := shared window 0 word (other.map (·, false))
    let order := (marked.filter (·.2)).map (·.1)
    let displaced := ((found.zip order).filter fun (c, d) => c ≠ d).length / 2
    let share (n size : Nat) : Binary64 := (Binary64.ofNat n).div (.ofNat size)
    if found.isEmpty then .zero false
    else
      let sum := ((share found.length word.length).add (share found.length other.length)).add
        (share (found.length - displaced) found.length)
      sum.div (.ofNat 3)

def alike : Binary64 := .ofDecimal false 7 (-1)

/-- The most similar of some words, if one is alike; of equals the last. -/
def mostSimilar? (word : String) (known : List String) : Option String :=
  let better (best : Option (String × Binary64)) (name : String) : Option (String × Binary64) :=
    let value := similarity word name
    if !alike.lt value then best
    else match best with
      | some (_, least) => if value.lt least then best else some (name, value)
      | none => some (name, value)
  (known.foldl better none).map (·.1)

end InstanceBroker.Text
