import InstanceBroker.Command.Option

namespace InstanceBroker.Server

structure Address where
  host : String
  port : Nat
deriving DecidableEq, Repr

inductive AddressProblem
  | noPort | invalidPort
deriving DecidableEq, Repr

def AddressProblem.message : AddressProblem → String
  | noPort => "invalid socket address"
  | invalidPort => "invalid port value"

/-- The last colon sets the port apart. -/
def Address.ofText (text : String) : Except AddressProblem Address :=
  let reversed := text.toList.reverse
  let port := reversed.takeWhile (· ≠ ':')
  match reversed.drop port.length with
  | [] => .error .noPort
  | _ :: host =>
    match Command.integer false (String.ofList port.reverse) with
    | .ok number =>
      if number ≤ Command.highestPort then .ok ⟨String.ofList host.reverse, number.toNat⟩
      else .error .invalidPort
    | .error _ => .error .invalidPort

def Address.text (address : Address) : String := address.host ++ ":" ++ toString address.port

structure BindError where
  address : String
  cause : AddressProblem
deriving DecidableEq, Repr

def BindError.message (error : BindError) : String := s!"Failed to bind to {error.address}"

def bind (address : String) : Except BindError Address :=
  (Address.ofText address).mapError fun cause => ⟨address, cause⟩

end InstanceBroker.Server
