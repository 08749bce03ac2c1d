import InstanceBroker.Text.Letter
import InstanceBroker.Text.White
import InstanceBroker.Text.Radix

namespace InstanceBroker.Log

inductive Severity
  | error | warn | info | debug | trace
deriving DecidableEq, Repr

namespace Severity

def name : Severity → String
  | error => "ERROR"
  | warn => "WARN"
  | info => "INFO"
  | debug => "DEBUG"
  | trace => "TRACE"

def rank : Severity → Nat
  | error => 1
  | warn => 2
  | info => 3
  | debug => 4
  | trace => 5

end Severity

structure Record where
  severity : Severity
  origin : String
  message : String
deriving DecidableEq, Repr

def Record.text (record : Record) : String := record.severity.name ++ " " ++ record.message

def Record.fields : List String := ["message"]

inductive Verbosity
  | off
  | upTo (severity : Severity)
deriving DecidableEq, Repr

namespace Verbosity

def rank : Verbosity → Nat
  | off => 0
  | upTo severity => severity.rank

def all : List (String × Verbosity) :=
  [("off", off), ("error", upTo .error), ("warn", upTo .warn), ("info", upTo .info),
    ("debug", upTo .debug), ("trace", upTo .trace)]

def ofText? (text : String) : Option Verbosity :=
  let digits := match text.toList with
    | '+' :: rest => rest
    | rest => rest
  match if digits.isEmpty then none else Text.number? 10 digits with
  | some n => (all[n]?).map (·.2)
  | none => all.lookup text.toLower

end Verbosity

structure FieldCondition where
  name : String
  hasValue : Bool
deriving DecidableEq, Repr

def FieldCondition.ofChars (text : List Char) : FieldCondition :=
  let name := text.takeWhile (· ≠ '=')
  ⟨String.ofList name, name.length < text.length⟩

structure Directive where
  verbosity : Verbosity := .upTo .trace
  origin : Option String := none
  span : Option String := none
  fields : List FieldCondition := []
deriving DecidableEq, Repr

inductive FilterProblem
  | directive | verbosity
deriving DecidableEq, Repr

def FilterProblem.message : FilterProblem → String
  | directive => "invalid filter directive"
  | verbosity =>
    "error parsing level filter: expected one of \"off\", \"error\", \"warn\", \"info\", " ++
      "\"debug\", \"trace\", or a number 0-5"

namespace Directive

def beginsOrigin (c : Char) : Bool :=
  c = '-' || c = ':' || c = '_' || Text.isAlphanumeric c

def verbosityOf (text : List Char) : Except FilterProblem Verbosity :=
  if text.isEmpty then .ok (.upTo .trace)
  else match Verbosity.ofText? (String.ofList text) with
    | some verbosity => .ok verbosity
    | none => .error .verbosity

def afterSpan (directive : Directive) : List Char → Except FilterProblem Directive
  | [] => .ok directive
  | '=' :: rest => return { directive with verbosity := ← verbosityOf rest }
  | _ => .error .directive

/-- A span after its opening bracket: a name, a condition between braces, or both. -/
def withSpan (directive : Directive) (text : List Char) : Except FilterProblem Directive :=
  let name := text.takeWhile fun c => c ≠ ']' && c ≠ '{'
  let span := String.ofList name
  match text.drop name.length with
  | ']' :: rest => { directive with span := some span }.afterSpan rest
  | _ :: rest =>
    let condition := rest.takeWhile (· ≠ '}')
    match condition, rest.drop condition.length with
    | _ :: _, _ :: ']' :: rest =>
      { directive with
        span := if name.isEmpty then none else some span
        fields := [.ofChars condition] }.afterSpan rest
    | _, _ => .error .directive
  | [] => .error .directive

def ofChars (text : List Char) : Except FilterProblem Directive :=
  match text with
  | [] => .error .directive
  | '[' :: rest => withSpan {} rest
  | c :: _ =>
    if !beginsOrigin c then .error .directive
    else
      let word := text.takeWhile fun c => c ≠ '=' && c ≠ '['
      let origin := String.ofList word
      match text.drop word.length with
      | [] => match Verbosity.ofText? origin with
        | some verbosity => .ok { verbosity }
        | none => .ok { origin := some origin }
      | '[' :: rest => withSpan { origin := some origin } rest
      | _ :: rest => return { origin := some origin, verbosity := ← verbosityOf rest }

def isStatic (directive : Directive) : Bool :=
  directive.span.isNone && !directive.fields.any (·.hasValue)

/-- Longer origins are more specific than shorter ones, then more fields than fewer. -/
def specificity (directive : Directive) : Nat × Nat :=
  (directive.origin.elim 0 fun origin => origin.utf8ByteSize + 1, directive.fields.length)

def bearsOn (directive : Directive) (record : Record) : Bool :=
  directive.isStatic && (directive.origin.all fun origin => record.origin.startsWith origin) &&
    directive.fields.all fun field => Record.fields.contains field.name

def admits (directive : Directive) (record : Record) : Bool :=
  record.severity.rank ≤ directive.verbosity.rank

end Directive

structure Filter where
  directives : List Directive
deriving DecidableEq, Repr

namespace Filter

/-- Without directives only errors are selected. -/
def unset : Directive := { verbosity := .upTo .error }

def split (text : List Char) : List (List Char) :=
  text.foldr (fun c parts => match parts with
    | [] => [[c]]
    | part :: rest => if c = ',' then [] :: part :: rest else (c :: part) :: rest) [[]]

def trim (text : List Char) : List Char :=
  ((text.dropWhile Text.isWhite).reverse.dropWhile Text.isWhite).reverse

def ofText (text : String) : Except FilterProblem Filter :=
  if text.isEmpty then .ok ⟨[unset]⟩
  else do
    return ⟨← (split text.toList).mapM fun part => Directive.ofChars (trim part)⟩

/-- The directive that decides about a record; of equally specific ones the last. -/
def deciding? (filter : Filter) (record : Record) : Option Directive :=
  (filter.directives.filter (·.bearsOn record)).foldl (fun best directive => match best with
    | none => some directive
    | some best =>
      let (origin, fields) := directive.specificity
      let (bestOrigin, bestFields) := best.specificity
      if origin < bestOrigin ∨ (origin = bestOrigin ∧ fields < bestFields) then some best
      else some directive) none

def admits (filter : Filter) (record : Record) : Bool :=
  (filter.deciding? record).any (·.admits record)

end Filter

end InstanceBroker.Log
