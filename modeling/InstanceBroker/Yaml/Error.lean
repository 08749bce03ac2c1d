import InstanceBroker.Yaml.Fault
import InstanceBroker.Yaml.Value

namespace InstanceBroker.Yaml

open Text (ticked)

inductive Found
  | scalar (value : Value)
  | list
  | map
deriving DecidableEq, Repr

def Found.text : Found → String
  | scalar value => value.describe
  | list => "sequence"
  | map => "map"

inductive Mismatch
  | invalidType (found : Found) (expected : String)
  | invalidText (text : String) (expected : String)
  | duplicateField (name : String)
  | refused (reason : String)
deriving DecidableEq, Repr

def Mismatch.text : Mismatch → String
  | invalidType found expected => "invalid type: " ++ found.text ++ ", expected " ++ expected
  | invalidText text expected =>
    "invalid value: string " ++ Text.quoted text ++ ", expected " ++ expected
  | duplicateField name => "duplicate field " ++ ticked name
  | refused reason => reason

inductive Error
  | control (offset : Nat)
  | malformed (fault : Fault)
  | unknownAnchor (place : Place)
  | severalDocuments
  | mismatch (cause : Mismatch) (key : Option String) (place : Place)
deriving DecidableEq, Repr

def atPlace (place : Place) : String := if place.isOrigin then "" else " at " ++ place.text

def Error.text : Error → String
  | control offset =>
    "control characters are not allowed" ++
      if offset = 0 then "" else " at position " ++ toString offset
  | malformed fault => fault.text
  | unknownAnchor place => "unknown anchor" ++ atPlace place
  | severalDocuments =>
    "deserializing from YAML containing more than one document is not supported"
  | mismatch cause key place =>
    (key.elim "" (· ++ ": ")) ++ cause.text ++ atPlace place

end InstanceBroker.Yaml
