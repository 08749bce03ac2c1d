import InstanceBroker.Operation
import InstanceBroker.Timestamp
import InstanceBroker.Config

namespace InstanceBroker

/-- Identifiers are kept in 64 bits. Here they are counted without that bound, which is met only
after `2 ^ 64 - 2` transactions were opened. -/
abbrev TransactionId := Nat

/-- The life of a live transaction; one that is released has no state. -/
inductive TransactionState
  | pending | valueReady | cancelled
deriving DecidableEq, Repr

structure TransactionInfo where
  id : TransactionId
  kind : Operation.Kind
  state : TransactionState
  createdAt : Timestamp
deriving DecidableEq, Repr

inductive Request
  | initiate (operation : Operation)
  | collect (kind : Operation.Kind) (transaction : TransactionId)
  | cancel (transaction : TransactionId)
  | listTransactions
deriving DecidableEq, Repr

inductive Answer
  | started (transaction : TransactionId)
  | created (result : CreateResult)
  | done
  | details (details : InstanceDetails)
  | instances (names : List String)
  | cancelRequested
  | transactions (infos : List TransactionInfo)
deriving DecidableEq, Repr

inductive Fault
  | cancelled
  | unknownTransaction (transaction : TransactionId)
  | operation (error : OperationError)
  | unexpectedResult (transaction : TransactionId) (expected : String)
  | dispatcherClosed
  | config (error : ConfigError)
deriving DecidableEq, Repr

namespace Fault

def message : Fault → String
  | cancelled => "Operation cancelled"
  | unknownTransaction transaction => s!"Unknown transaction: {transaction}"
  | operation error => s!"Operation failed: {error.message}"
  | unexpectedResult transaction expected =>
    s!"Transaction {transaction} did not produce a {expected} result"
  | dispatcherClosed => "Dispatcher is not running"
  | config error => s!"Configuration error: {error.message}"

def isCancelled : Fault → Bool
  | cancelled => true
  | _ => false

def isUnknownTransaction : Fault → Bool
  | unknownTransaction _ => true
  | _ => false

def operationError? : Fault → Option OperationError
  | operation error => some error
  | _ => none

end Fault

abbrev Outcome := Except Fault Answer

instance : DecidableEq Outcome
  | .ok a, .ok b => if h : a = b then isTrue (h ▸ rfl) else isFalse (by simpa using h)
  | .error a, .error b => if h : a = b then isTrue (h ▸ rfl) else isFalse (by simpa using h)
  | .ok _, .error _ => isFalse (by simp)
  | .error _, .ok _ => isFalse (by simp)

inductive ErrorCode
  | cancelled | unknownTransaction | notFound | alreadyExists | backend
  | unexpectedResult | unavailable | invalidRequest
deriving DecidableEq, Repr

def Fault.code : Fault → ErrorCode
  | cancelled => .cancelled
  | unknownTransaction _ => .unknownTransaction
  | operation error => match error.kind with
    | .notFound => .notFound
    | .alreadyExists => .alreadyExists
    | .cancelled => .cancelled
    | .backend => .backend
  | unexpectedResult .. => .unexpectedResult
  | dispatcherClosed | config _ => .unavailable

inductive Response
  | answer (answer : Answer)
  | error (code : ErrorCode) (message : String)
deriving DecidableEq, Repr

def Response.ofFault (fault : Fault) : Response := .error fault.code fault.message

def Response.ofOutcome : Outcome → Response
  | .ok given => .answer given
  | .error fault => .ofFault fault

def Response.invalidRequest (message : String) : Response := .error .invalidRequest message

structure Envelope where
  id : UInt64
  request : Request
deriving DecidableEq, Repr

structure Reply where
  id : Option UInt64 := none
  response : Response
deriving DecidableEq, Repr

end InstanceBroker
